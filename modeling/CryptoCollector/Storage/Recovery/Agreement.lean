import CryptoCollector.Storage.Manifest.Readable
import CryptoCollector.Storage.Recovery.Carrier

/-!
# The writer and the validator of a control carrier

The manifest that is published for a carrier passes the check against the ownership exactly when
the wall clock did not step back between the readings for the ownership, for the part and for its
close (`carrier_accepted_iff`).
-/

namespace CryptoCollector.Storage.Recovery

open Lib
open ManifestFields (raise)

section Carrier

variable {codec : CarrierCodec}

theorem attempt_eq_ok {operation : Lib.Proc Err ActivePart} {a b : ActivePart} :
    attempt operation a = .ok b ↔ operation a = (none, b) := by
  unfold attempt
  split
  · next h => simp [h]
  · next h => simp [h]

/-! ## The part of a carrier -/

theorem appendAccepted_ok {a b : ActivePart} {r : Row} (h : a.appendAccepted r = (none, b)) :
    b = { a.record r { a.part.record r.toRecord with
        pending := a.part.pending ++ [r.toRecord] } with pending := a.pending ++ [r] } := by
  unfold ActivePart.appendAccepted at h
  split at h
  · simp at h
  · split at h
    · simp at h
    · split at h
      · simp at h
      · next part hpart =>
        obtain rfl := ActivePart.part_appendAccepted_ok hpart
        exact (Prod.ext_iff.1 h).2.symm

theorem retire_ok {a b : ActivePart} {reason : CloseReason} {closedAtNs : Nat}
    (hopen : a.part.closeReason = none) (h : a.retire reason closedAtNs = (none, b)) :
    b = { a with part := { a.part with
      closeReason := some reason, closedAtNs := some closedAtNs } } := by
  unfold ActivePart.retire at h
  split at h
  · simp at h
  · rw [Part.retire, if_neg (by simp [hopen])] at h
    exact (Prod.ext_iff.1 h).2.symm

theorem sealForSync_ok {a b : ActivePart} (h : a.sealForSync true = (none, b)) :
    b = { a with
      part := { a.part with
        pending := []
        claimed := some ⟨a.part.nextClaimId, a.part.pending⟩
        nextClaimId := a.part.nextClaimId + 1 }
      pending := []
      claimed := a.pending } := by
  unfold ActivePart.sealForSync at h
  split at h
  · simp at h
  · next hfree =>
    split at h
    · simp at h
    · rw [if_neg (by simp)] at h
      have hseal : (a.part.sealForSync true).2 = { a.part with
          pending := []
          claimed := some ⟨a.part.nextClaimId, a.part.pending⟩
          nextClaimId := a.part.nextClaimId + 1 } := by
        rw [Part.sealForSync, if_neg hfree, if_neg (by simp)]
      rw [hseal] at h
      exact (Prod.ext_iff.1 h).2.symm

theorem completion_ok {a b : ActivePart} {result : FileDurabilityResult}
    (h : a.applyCompletion result = (none, b)) :
    ∃ c t, a.part.claimed = some c ∧ result.syncCompletedMonotonicNs = some t ∧
      b = { a with
        part := { a.part with
          accumulator := a.part.accumulator.credit a.durabilitySloNs t result.syncDurationNs
            c.rows
          claimed := none
          claimBatch := none }
        claimed := []
        written := if a.claimed.isEmpty then a.written else a.written ++ [a.claimed]
        lags := a.lags ++ lagsAt (result.syncCompletedMonotonicNs.getD 0)
          (a.claimed.map Row.toRecord) } := by
  unfold ActivePart.applyCompletion at h
  split at h
  · simp at h
  · next part hpart =>
    obtain ⟨c, t, hc, ht, rfl⟩ := ActivePart.applyCompletion_ok hpart
    exact ⟨c, t, hc, ht, (Prod.ext_iff.1 h).2.symm⟩

/-- The part of a carrier after its close: it holds its one row. -/
structure Carries (a : ActivePart) (row : Row) (t : Readings) (level limit : Nat) : Prop where
  rows : a.rows = [row]
  written : a.written = [[row]]
  exchange : a.exchange = row.envelope.exchange
  worker : a.workerInstanceId = row.envelope.workerInstanceId
  key : a.part.key = row.envelope.key
  config : a.part.configSha256 = row.envelope.configSha256
  data : rawDataPath row.envelope.toEnvelopeFields t.partStartNs t.partSequence =
    .ok a.dataRelativePath
  manifest : manifestPathForData a.dataRelativePath = .ok a.manifestRelativePath
  level : a.zstdLevel = level
  limit : a.maxPlainFrameBytes = limit
  reason : a.part.closeReason = some .recoveryControl
  closed : a.part.closedAtNs = some t.closedAtNs
  created : a.part.createdAtNs = t.createdAtNs
  syncs : a.part.accumulator.syncCount = 1
  duration : a.part.accumulator.syncDurationTotalNs = t.completion.syncDurationNs
  longest : a.part.accumulator.syncDurationMaxNs = t.completion.syncDurationNs
  counters : a.part.accumulator.counters = {}
  events : a.part.accumulator.controlEventIds = []
  histogram : ∃ lag, a.part.accumulator.histogram = ({} : Histogram).add lag

theorem carries_of_ok {a₀ a₁ a₂ a₃ a₄ : ActivePart} {row : Row} {t : Readings}
    {level limit slo : Nat}
    (h₀ : ActivePart.allocate row t.partStartNs t.partSequence t.createdAtNs level limit slo =
      .ok a₀)
    (h₁ : a₀.appendAccepted row = (none, a₁))
    (h₂ : a₁.retire .recoveryControl t.closedAtNs = (none, a₂))
    (h₃ : a₂.sealForSync true = (none, a₃))
    (h₄ : a₃.applyCompletion t.completion = (none, a₄)) : Carries a₄ row t level limit := by
  obtain ⟨hdata, hmanifest, -, -, -, hallocated⟩ := ActivePart.allocate_ok h₀
  have happended := appendAccepted_ok h₁
  have hopen : a₁.part.closeReason = none := by
    rw [happended, hallocated]
    rfl
  have hretired := retire_ok hopen h₂
  have hsealed := sealForSync_ok h₃
  obtain ⟨c, time, hclaimed, htime, hcompleted⟩ := completion_ok h₄
  rw [hallocated] at happended
  rw [happended] at hretired
  rw [hretired] at hsealed
  have hc : c = ⟨0, [row.toRecord]⟩ := by
    rw [hsealed] at hclaimed
    exact (Option.some.inj hclaimed).symm
  rw [hsealed, hc] at hcompleted
  rw [hcompleted]
  exact {
    rows := rfl
    written := rfl
    exchange := rfl
    worker := rfl
    key := rfl
    config := rfl
    data := hdata
    manifest := hmanifest
    level := rfl
    limit := rfl
    reason := rfl
    closed := rfl
    created := rfl
    syncs := rfl
    duration := Nat.zero_add _
    longest := Nat.zero_max _
    counters := rfl
    events := rfl
    histogram := ⟨_, rfl⟩ }

/-! ## The summary of a carrier -/

/-- What the accumulator puts into the summary beside the facts of the rows. -/
structure Measured (a : ActivePart) (summary : PartSummary) (s : HistogramSnapshot) : Prop where
  snapshot : a.part.accumulator.histogram.snapshot = .ok s
  median : s.lagP50Ns = some summary.durabilityLagP50Ns
  tail : s.lagP95Ns = some summary.durabilityLagP95Ns
  extreme : s.lagP99Ns = some summary.durabilityLagP99Ns
  longest : s.lagMaxNs = some summary.durabilityLagMaxNs
  counters : summary.counters = a.part.accumulator.counters
  events : summary.controlEventIds = a.part.accumulator.controlEventIds.toFinset.sort (· ≤ ·)
  syncs : summary.syncCount = a.part.accumulator.syncCount
  total : summary.syncDurationTotalNs = a.part.accumulator.syncDurationTotalNs
  max : summary.syncDurationMaxNs = a.part.accumulator.syncDurationMaxNs
  writes : summary.writeFailureCount = 0
  failures : summary.syncFailureCount = 0

theorem measured_of_freeze {a : ActivePart} {summary : PartSummary}
    (h : a.freezeSummary = .ok summary) : ∃ s, Measured a summary s := by
  unfold ActivePart.freezeSummary at h
  split at h
  · simp at h
  · next part hpart =>
    obtain ⟨-, -, -, -, hwrite, hsync, rfl⟩ := ActivePart.part_freezeSummary_ok hpart
    simp only [bind_eq_ok, ActivePart.assertSome_eq_ok] at h
    obtain ⟨s, hs, first, -, last, -, seqFirst, -, seqLast, -, p50, hp50, p95, hp95, p99, hp99,
      lagMax, hlagMax, h⟩ := h
    obtain rfl := Except.ok.inj h
    exact ⟨s, hs, hp50, hp95, hp99, hlagMax, rfl, rfl, rfl, rfl, rfl, hwrite, hsync⟩

theorem sortedValues_singleton {α : Type} [LinearOrder α] (field : RawEnvelope → Option α)
    (e : RawEnvelope) : sortedValues field [e] = (field e).toList := by
  cases h : field e <;> simp [sortedValues, h]

/-- The manifest of a carrier agrees with the row that it owns. -/
theorem agreesWithRow_of_carries {a : ActivePart} {row : Row} {t : Readings}
    {level limit : Nat} {summary : PartSummary} (ha : Carries a row t level limit)
    (hs : a.Summarised summary) {o : OwnershipFields} (henvelope : o.envelope = row.envelope)
    (hkey : row.envelope.key = .control) (hsymbol : row.envelope.wireSymbol = none)
    (hdata : o.dataRelativePath = a.dataRelativePath)
    (hmanifest : o.manifestRelativePath = a.manifestRelativePath)
    (hlevel : o.zstdLevel = level) (hlimit : o.maxPlainFrameBytes = limit) :
    agreesWithRow (a.manifestFields summary o.frameSizeBytes o.frameSha256 .recoveryControl
      t.closedAtNs) o = true := by
  have hkey' : summary.key = .control := by rw [hs.key, ha.key, hkey]
  have hfirst : summary.firstReceivedAtNs = row.envelope.receivedAtNs := by
    simpa [ha.rows] using hs.firstReceived
  have hlast : summary.lastReceivedAtNs = row.envelope.receivedAtNs := by
    simpa [ha.rows] using hs.lastReceived
  have hseqFirst : summary.writerSequenceFirst = row.envelope.writerSequence := by
    simpa [ha.rows] using hs.sequenceFirst
  have hseqLast : summary.writerSequenceLast = row.envelope.writerSequence := by
    simpa [ha.rows] using hs.sequenceLast
  have hcount : summary.recordCount = 1 := by
    simpa [ha.rows] using hs.recordCount
  have hevent : summary.firstEventTimeNs = row.envelope.eventTimeNs ∧
      summary.lastEventTimeNs = row.envelope.eventTimeNs := by
    rw [hs.firstEventTime, hs.lastEventTime, ha.rows]
    cases htime : row.envelope.eventTimeNs <;> simp [htime]
  have hset : ∀ {α : Type} [LinearOrder α] (field : RawEnvelope → Option α),
      sortedValues field (a.rows.map (·.envelope)) = (field row.envelope).toList := by
    intro α _ field
    rw [ha.rows, List.map_singleton, sortedValues_singleton]
  unfold agreesWithRow
  simp [ActivePart.manifestFields, hkey', LogicalKey.control, hs.exchange, ha.exchange, henvelope,
    hs.wireSymbols, hset, hsymbol, hdata, hmanifest, ha.level, hlevel, ha.limit, hlimit, hcount,
    hfirst, hlast, hevent.1, hevent.2, hs.worker, ha.worker, hs.connectionGenerations, hseqFirst,
    hseqLast, hs.config, ha.config, hs.egressIds, hs.requestedIntervals, hs.effectiveIntervals]

section Durability

variable {a : ActivePart} {row : Row} {t : Readings} {level limit size : Nat} {sha : String}
  {summary : PartSummary} {s : HistogramSnapshot}

theorem hasNoControls_of_carries (ha : Carries a row t level limit)
    (hm : Measured a summary s) :
    hasNoControls (a.manifestFields summary size sha .recoveryControl t.closedAtNs) = true := by
  simp [hasNoControls, ActivePart.manifestFields, hm.counters, ha.counters, hm.events, ha.events]

/-- The quantiles of a carrier are those of its one sample. -/
theorem expectedLags_of_carries (ha : Carries a row t level limit) (hm : Measured a summary s) :
    expectedLags (some summary.durabilityLagMaxNs) = .ok (some
      (some summary.durabilityLagP50Ns, some summary.durabilityLagP95Ns,
        some summary.durabilityLagP99Ns, some summary.durabilityLagMaxNs)) := by
  obtain ⟨lag, hlag⟩ := ha.histogram
  have hmax : summary.durabilityLagMaxNs = lag := by
    have hsame := (Histogram.snapshot_ok hm.snapshot).2.1
    rw [hm.longest, hlag] at hsame
    exact Option.some.inj hsame
  have hsnapshot := hm.snapshot
  rw [hlag] at hsnapshot
  unfold expectedLags
  rw [hmax]
  simp only [hsnapshot, ok_bind, hm.median, hm.tail, hm.extreme, hm.longest, hmax]
  rfl

/-- The durability facts of a carrier are refused exactly when its times are out of order. -/
theorem refusesDurability_of_carries (ha : Carries a row t level limit)
    (hs : a.Summarised summary) (hm : Measured a summary s) (o : OwnershipFields) :
    refusesDurability (a.manifestFields summary size sha .recoveryControl t.closedAtNs) o
        (some (some summary.durabilityLagP50Ns, some summary.durabilityLagP95Ns,
          some summary.durabilityLagP99Ns, some summary.durabilityLagMaxNs)) = false ↔
      o.createdAtNs ≤ t.createdAtNs ∧ t.createdAtNs ≤ t.closedAtNs := by
  have hsamples : summary.durabilitySampleCount = 1 := by
    rw [hs.sampleCount, hs.samples, ha.rows]
    rfl
  have hbreaches : summary.sloBreachCount = 0 ∨ summary.sloBreachCount = 1 := by
    have hle : summary.sloBreachCount ≤ 1 := by
      rw [hs.breaches]
      refine (List.countP_le_length).trans ?_
      rw [hs.samples, ha.rows]
      rfl
    omega
  unfold refusesDurability
  simp only [ActivePart.manifestFields, hsamples, hm.syncs, ha.syncs, hm.total, ha.duration, hm.max,
    ha.longest, hm.writes, hm.failures, ha.created]
  rcases hbreaches with hbreaches | hbreaches <;> simp [hbreaches]

end Durability

/-! ## The carrier that is published -/

theorem ownership_of_create {o : OwnershipFields} {c : ControlOwnership codec}
    (h : ControlOwnership.create codec o = .ok c) : c.toOwnershipFields = o := by
  unfold ControlOwnership.create at h
  split at h
  · rw [← Except.ok.inj h]
  · simp at h

theorem ControlOwnership.create_of_valid {o : OwnershipFields}
    (h : o.validate codec = .ok ()) : ControlOwnership.create codec o = .ok ⟨o, h⟩ := by
  unfold ControlOwnership.create
  split
  · rfl
  · next he => simp [h] at he

/-- What the ownership of an admission says. -/
theorem ownershipFromAdmission_ok {admission : ControlAdmission} {createdAtNs : Nat}
    {o : ControlOwnership codec}
    (h : ownershipFromAdmission codec admission createdAtNs = .ok o) :
    o.createdAtNs = createdAtNs ∧ o.envelope = admission.row.envelope ∧
      o.dataRelativePath = admission.dataRelativePath ∧
      o.manifestRelativePath = admission.manifestRelativePath ∧
      o.zstdLevel = admission.zstdLevel ∧ o.maxPlainFrameBytes = admission.maxPlainFrameBytes ∧
      o.frame = admission.frame ∧ o.frameSizeBytes = admission.frame.length ∧
      o.frameSha256 = (codec.sha256 admission.frame).hex ∧
      o.transactionId = admission.transactionId ∧
      o.recoveryControlEventId = admission.recoveryControlEventId ∧
      o.identity = admission.row.identity ∧ o.generationId = admission.generationId ∧
      o.encodedSha256 = (codec.sha256 admission.row.encodedJsonl).hex := by
  simp only [ownershipFromAdmission, bind_eq_ok] at h
  obtain ⟨scan, -, manifest, -, h⟩ := h
  rw [ownership_of_create h]
  exact ⟨rfl, rfl, rfl, rfl, rfl, rfl, rfl, rfl, rfl, rfl, rfl, rfl, rfl, rfl⟩

/-- The record of a pending control is in the control scope. -/
theorem acceptControl_ok {w : RecoveryWriter} {pending : PendingControl} {t : Readings}
    {row : Row} (h : acceptControl codec w pending t = .ok row) :
    row.envelope.key = .control ∧ row.envelope.wireSymbol = none := by
  unfold acceptControl at h
  split at h
  · simp at h
  · obtain rfl := Except.ok.inj h
    exact ⟨rfl, rfl⟩

/-- The files of a published carrier, and no partial file. -/
structure PublishedCarrier.OnDisk (c : PublishedCarrier codec) (root : DataRoot) : Prop where
  data : root c.ownership.dataRelativePath = some c.data
  closed : root (c.ownership.dataRelativePath ++ ".partial") = none
  manifest : root c.ownership.manifestRelativePath = some (codec.manifestBytes c.manifest)

/-- The carrier that processing a pending control publishes. -/
theorem process_ok {w : RecoveryWriter} {pending : PendingControl} {t : Readings}
    {c : PublishedCarrier codec}
    (h : processPendingRecoveryControl codec w pending t = .ok c) :
    ∃ a row summary s, Carries a row t w.zstdLevel w.maxPlainFrameBytes ∧
      a.Summarised summary ∧ Measured a summary s ∧ row.envelope.key = .control ∧
      row.envelope.wireSymbol = none ∧ c.data = c.ownership.frame ∧
      c.ownership.frameSizeBytes = c.data.length ∧
      c.ownership.frameSha256 = (codec.sha256 c.data).hex ∧
      c.ownership.createdAtNs = t.boundAtNs ∧ c.ownership.envelope = row.envelope ∧
      c.ownership.dataRelativePath = a.dataRelativePath ∧
      c.ownership.manifestRelativePath = a.manifestRelativePath ∧
      c.ownership.zstdLevel = w.zstdLevel ∧
      c.ownership.maxPlainFrameBytes = w.maxPlainFrameBytes ∧
      c.manifest.toManifestFields = a.manifestFields summary c.ownership.frameSizeBytes
        c.ownership.frameSha256 .recoveryControl t.closedAtNs ∧
      c.receipt = ⟨c.ownership.transactionId, c.ownership.recoveryControlEventId,
        c.ownership.identity, c.ownership.generationId, c.ownership.dataRelativePath,
        c.ownership.encodedSha256⟩ := by
  simp only [processPendingRecoveryControl, closeCarrier, bind_eq_ok, attempt_eq_ok] at h
  obtain ⟨row, hrow, path, hpath, manifestPath, hmanifestPath, o, ho, a₀, h₀, a₁, h₁, x, hclose,
    hc⟩ := h
  obtain ⟨a₂, h₂, a₃, h₃, a₄, h₄, summary, hsummary, m, hm, hx⟩ := hclose
  obtain rfl := Except.ok.inj hx
  obtain rfl := Except.ok.inj hc
  have hcarries := carries_of_ok h₀ h₁ h₂ h₃ h₄
  have hrun : a₄ = a₀.run [.append row, .retire .recoveryControl t.closedAtNs,
      .sealForSync true, .complete t.completion] := by
    simp [ActivePart.run, ActivePart.step, h₁, h₂, h₃, h₄]
  have hk : a₄.Kept := by
    rw [hrun]
    exact (ActivePart.kept_allocate h₀).run _
  have hs : a₄.Summarised summary := hk.summarised hsummary
  obtain ⟨s, hmeasured⟩ := measured_of_freeze hsummary
  obtain ⟨hkey, hsymbol⟩ := acceptControl_ok hrow
  obtain ⟨hcreated, henvelope, hdata, hmanifest, hlevel, hlimit, hframe, hsize, hsha, htransaction,
    hevent, hidentity, hgeneration, hencoded⟩ := ownershipFromAdmission_ok ho
  have hpath' : a₄.dataRelativePath = path :=
    Except.ok.inj (hcarries.data.symm.trans hpath)
  have hmanifestPath' : a₄.manifestRelativePath = manifestPath := by
    have hsibling := hcarries.manifest
    rw [hpath'] at hsibling
    exact Except.ok.inj (hsibling.symm.trans hmanifestPath)
  have hfile : (a₄.written.flatMap fun frame =>
      codec.compress (frame.flatMap (·.encodedJsonl))) = codec.compress row.encodedJsonl := by
    simp [hcarries.written]
  rw [hfile] at hm
  unfold ActivePart.buildManifest at hm
  rw [hcarries.reason, hcarries.closed] at hm
  refine ⟨a₄, row, summary, s, hcarries, hs, hmeasured, hkey, hsymbol, ?_, ?_, ?_, hcreated,
    henvelope, hdata.trans hpath'.symm, hmanifest.trans hmanifestPath'.symm, hlevel, hlimit, ?_, ?_⟩
  · exact hfile.trans hframe.symm
  · rw [hfile]
    exact hsize
  · rw [hfile]
    exact hsha
  · rw [hsize, hsha]
    exact RawManifest.create_eq_ok.1 hm
  · rw [htransaction, hevent, hidentity, hgeneration, hdata, hencoded]

theorem validateNormal_iff {w : RecoveryWriter} {pending : PendingControl} {t : Readings}
    {c : PublishedCarrier codec}
    (h : processPendingRecoveryControl codec w pending t = .ok c)
    (hjson : codec.parseManifest (codec.manifestBytes c.manifest) =
      .ok c.manifest.toManifestFields) :
    validateNormalOwnedControlManifest codec (codec.manifestBytes c.manifest)
        c.ownership.toOwnershipFields = .ok () ↔
      t.boundAtNs ≤ t.createdAtNs ∧ t.createdAtNs ≤ t.closedAtNs := by
  obtain ⟨a, row, summary, s, ha, hs, hm, hkey, hsymbol, -, -, -, hcreated, henvelope, hdata,
    hmanifest, hlevel, hlimit, hfields, -⟩ := process_ok h
  have hagrees : agreesWithRow c.manifest.toManifestFields c.ownership.toOwnershipFields = true := by
    rw [hfields]
    exact agreesWithRow_of_carries ha hs henvelope hkey hsymbol hdata hmanifest hlevel hlimit
  have hcontrols : hasNoControls c.manifest.toManifestFields = true := by
    rw [hfields]
    exact hasNoControls_of_carries ha hm
  have hlags : expectedLags c.manifest.durabilityLagMaxNs = .ok (some
      (some summary.durabilityLagP50Ns, some summary.durabilityLagP95Ns,
        some summary.durabilityLagP99Ns, some summary.durabilityLagMaxNs)) := by
    rw [hfields]
    exact expectedLags_of_carries ha hm
  have htimes : refusesDurability c.manifest.toManifestFields c.ownership.toOwnershipFields
      (some (some summary.durabilityLagP50Ns, some summary.durabilityLagP95Ns,
        some summary.durabilityLagP99Ns, some summary.durabilityLagMaxNs)) = false ↔
      t.boundAtNs ≤ t.createdAtNs ∧ t.createdAtNs ≤ t.closedAtNs := by
    rw [hfields, ← hcreated]
    exact refusesDurability_of_carries ha hs hm _
  unfold validateNormalOwnedControlManifest
  rw [hjson, ok_bind, RawManifest.create_of_valid c.manifest.valid, ← htimes]
  simp [hagrees, hcontrols, hlags, blockIf]

theorem verifyCarrier_of_valid {w : RecoveryWriter} {pending : PendingControl} {t : Readings}
    {c : PublishedCarrier codec}
    (h : processPendingRecoveryControl codec w pending t = .ok c) {root : DataRoot}
    (hroot : c.OnDisk root)
    (hvalid : validateNormalOwnedControlManifest codec (codec.manifestBytes c.manifest)
      c.ownership.toOwnershipFields = .ok ()) :
    verifyOwnedControlCarrier codec root c.ownership.toOwnershipFields = .ok () := by
  obtain ⟨-, -, -, -, -, -, -, -, -, -, hsize, hsha, -⟩ := process_ok h
  have hownership := c.ownership.valid
  simp only [OwnershipFields.validate, bind_eq_ok, ManifestFields.raise_eq_ok,
    refuseIf_eq_none] at hownership
  obtain ⟨-, -, -, -, -, -, -, -, -, -, -, -, -, -, scan, hscan, -, hexact, -⟩ := hownership
  have hexact' : holdsExactly scan c.ownership.frame c.ownership.envelope = true := by
    simpa using hexact
  unfold verifyOwnedControlCarrier
  simp [hroot.data, hroot.closed, hroot.manifest, hsize, hsha, hvalid, hscan, hexact', blockIf]

/-- The manifest published for a carrier passes the check against its ownership, the carrier is
acknowledged and every later start accepts it, exactly when the wall clock did not step back from
the reading for the ownership to that for the part and from there to that for the close. -/
theorem carrier_accepted_iff {w : RecoveryWriter} {pending : PendingControl} {t : Readings}
    {c : PublishedCarrier codec}
    (h : processPendingRecoveryControl codec w pending t = .ok c)
    (hjson : codec.parseManifest (codec.manifestBytes c.manifest) =
      .ok c.manifest.toManifestFields) :
    (validateNormalOwnedControlManifest codec (codec.manifestBytes c.manifest)
        c.ownership.toOwnershipFields = .ok () ∧
      ∀ root, c.OnDisk root →
        acknowledgeControlDurable codec root (.ok ()) c.ownership.toOwnershipFields c.receipt =
          .ok () ∧
        verifyOwnedControlCarrier codec root c.ownership.toOwnershipFields = .ok ()) ↔
      t.boundAtNs ≤ t.createdAtNs ∧ t.createdAtNs ≤ t.closedAtNs := by
  constructor
  · rintro ⟨hvalid, -⟩
    exact (validateNormal_iff h hjson).1 hvalid
  · intro htimes
    have hvalid := (validateNormal_iff h hjson).2 htimes
    refine ⟨hvalid, ?_⟩
    intro root hroot
    have hverified := verifyCarrier_of_valid h hroot hvalid
    refine ⟨?_, hverified⟩
    obtain ⟨a, row, summary, s, -, -, -, -, -, -, -, -, -, -, -, -, -, -, -, hreceipt⟩ :=
      process_ok h
    unfold acknowledgeControlDurable
    rw [hreceipt, hverified]
    simp [blockIf]

end Carrier

/-! ## One carrier -/

section Example

/-- The start of an hour. -/
def carrierHour : Nat := 1709164800000000000

/-- The transaction of the carrier. -/
def carrierTransaction : String := "123e4567-e89b-42d3-a456-426614174000"

/-- The event of the carrier. -/
def carrierEvent : String := "raw-recovery-lineage:v1:123e4567-e89b-42d3-a456-426614174000"

/-- The source that was quarantined as a whole. -/
def quarantinedSource : String :=
  "raw/binance/spot/BTC-USDT/trades/2024/02/29/00/part-" ++
    "1709164800000000000-1.jsonl.zst.partial"

/-- The digest of the source. -/
def quarantinedDigest : String :=
  "1111111111111111111111111111111111111111111111111111111111111111"

/-- The control of a source that was quarantined as a whole. -/
def quarantinedPending : PendingControl where
  transactionId := carrierTransaction
  recoveryControlEventId := carrierEvent
  payload := .object
    [("schema_version", .int 1), ("kind", .str "recovery_reconciled"),
     ("recovery_control_event_id", .str carrierEvent),
     ("transaction_id", .str carrierTransaction), ("source_state", .str "partial_truncated"),
     ("source_disposition", .str "moved_to_quarantine"), ("source_market", .str "spot"),
     ("source_instrument_key", .str "BTC-USDT"), ("source_logical_stream", .str "trades"),
     ("source_relative_path", .str quarantinedSource), ("source_sha256", .str quarantinedDigest),
     ("recovered_generation_id", .null), ("recovered_relative_path", .null),
     ("recovered_sha256", .null),
     ("quarantined_relative_path", .str ("quarantine/" ++ quarantinedSource ++ ".whole")),
     ("quarantined_sha256", .str quarantinedDigest), ("informational_only", .bool false),
     ("affected_markets", .list [.str "spot"])]

/-- The service that writes the carrier. -/
def carrierWriter : RecoveryWriter where
  exchange := .binance
  workerInstanceId := "w"
  configSha256 := "0000000000000000000000000000000000000000000000000000000000000000"
  configGeneration := 0
  zstdLevel := 3
  maxPlainFrameBytes := 1048576
  durabilitySloNs := 5000000000

/-- The readings for the carrier. The ownership is bound at the start of the hour, and the wall
clock says `createdAtNs` from then on. -/
def carrierReadings (createdAtNs : Nat) : Readings where
  receivedAtNs := carrierHour
  acceptedMonotonicNs := 1000
  writerSequence := 1
  acceptanceOrdinal := 0
  partStartNs := carrierHour
  partSequence := 0
  boundAtNs := carrierHour
  createdAtNs
  closedAtNs := createdAtNs
  completion := ActivePart.statusCompletion

/-- The bytes of a JSON text in quotes. -/
def quoted (s : String) : Bytes := ascii "\"" ++ ascii s ++ ascii "\""

/-- The bytes of a JSON object without the newline. -/
def jsonObject (fields : List (String × Bytes)) : Bytes :=
  ascii "\x7b" ++ (ascii ",").intercalate (fields.map fun field =>
    quoted field.1 ++ ascii ":" ++ field.2) ++ ascii "\x7d"

/-- The line of the control row. -/
def quarantinedLine : Bytes :=
  let payload := jsonObject
    [("schema_version", ascii "1"), ("kind", quoted "recovery_reconciled"),
     ("recovery_control_event_id", quoted carrierEvent),
     ("transaction_id", quoted carrierTransaction), ("source_state", quoted "partial_truncated"),
     ("source_disposition", quoted "moved_to_quarantine"), ("source_market", quoted "spot"),
     ("source_instrument_key", quoted "BTC-USDT"), ("source_logical_stream", quoted "trades"),
     ("source_relative_path", quoted quarantinedSource), ("source_sha256", quoted quarantinedDigest),
     ("recovered_generation_id", ascii "null"), ("recovered_relative_path", ascii "null"),
     ("recovered_sha256", ascii "null"),
     ("quarantined_relative_path",
       ascii "\"quarantine/" ++ ascii quarantinedSource ++ ascii ".whole\""),
     ("quarantined_sha256", quoted quarantinedDigest), ("informational_only", ascii "false"),
     ("affected_markets", ascii "[\"spot\"]")]
  jsonObject
    [("exchange", quoted "binance"), ("market", ascii "null"), ("instrument_key", ascii "null"),
     ("wire_symbol", ascii "null"), ("logical_stream", quoted "_control"),
     ("native_channel", ascii "null"), ("transport", quoted "internal"),
     ("event_time_ns", ascii "null"), ("event_time_source", ascii "null"),
     ("integrity_mode", ascii "null"), ("coverage", ascii "null"),
     ("rest_metadata", ascii "null"), ("payload", payload), ("schema_version", ascii "1"),
     ("received_at_ns", ascii "1709164800000000000"), ("monotonic_ns", ascii "1000"),
     ("worker_instance_id", quoted "w"), ("connection_id", ascii "null"),
     ("connection_generation", ascii "null"), ("writer_sequence", ascii "1"),
     ("egress_id", ascii "null"), ("config_sha256", quoted carrierWriter.configSha256)] ++ [10]

/-- Its frame, without the first byte. -/
def quarantinedRest : Bytes :=
  [181, 47, 253, 100, 191, 4, 165, 18, 0, 86, 96, 93, 35, 32, 141, 184, 1, 172, 241, 134, 202,
   132, 49, 249, 160, 7, 175, 210, 45, 67, 161, 57, 0, 219, 195, 146, 221, 129, 95, 27, 27, 7,
   96, 5, 48, 16, 196, 137, 78, 0, 86, 0, 87, 0, 145, 126, 143, 153, 74, 251, 18, 77, 118, 125,
   94, 92, 248, 222, 144, 199, 233, 175, 204, 84, 178, 159, 140, 10, 186, 246, 231, 110, 12, 23,
   74, 169, 254, 143, 185, 108, 27, 181, 115, 221, 32, 77, 30, 83, 223, 105, 162, 15, 246, 172,
   82, 196, 255, 241, 162, 226, 92, 132, 23, 190, 62, 60, 37, 84, 80, 27, 39, 111, 3, 46, 212,
   136, 211, 209, 32, 20, 37, 2, 2, 205, 211, 48, 24, 206, 179, 48, 22, 79, 46, 1, 144, 243, 44,
   13, 4, 3, 186, 8, 48, 22, 143, 6, 56, 205, 106, 36, 75, 163, 84, 94, 183, 44, 83, 46, 83, 16,
   82, 183, 141, 217, 68, 29, 23, 66, 188, 15, 84, 154, 133, 220, 251, 92, 37, 44, 37, 117, 180,
   135, 18, 11, 161, 108, 55, 73, 72, 126, 66, 249, 42, 177, 127, 234, 81, 186, 74, 186, 65, 45,
   177, 201, 175, 71, 218, 60, 255, 34, 20, 142, 251, 57, 40, 154, 69, 13, 60, 140, 134, 64, 9,
   52, 11, 163, 20, 67, 224, 48, 142, 98, 30, 71, 57, 12, 195, 48, 204, 148, 142, 79, 136, 83,
   127, 10, 165, 127, 194, 1, 130, 194, 98, 144, 80, 128, 223, 144, 135, 202, 251, 156, 158,
   145, 7, 214, 207, 32, 149, 180, 132, 11, 247, 53, 228, 45, 244, 217, 56, 226, 207, 92, 238,
   123, 66, 62, 255, 49, 238, 253, 150, 168, 148, 122, 2, 0, 19, 24, 109, 227, 61, 245, 72, 53,
   242, 160, 143, 185, 254, 250, 164, 204, 221, 80, 193, 201, 245, 225, 61, 161, 162, 148, 106,
   203, 253, 205, 45, 161, 242, 185, 218, 212, 149, 9, 134, 133, 133, 15, 210, 111, 218, 104,
   36, 42, 250, 92, 54, 22, 78, 28, 55, 115, 41, 121, 55, 120, 93, 59, 38, 5, 3, 105, 186, 178,
   70, 12, 210, 6, 23, 50, 22, 78, 58, 86, 17, 86, 168, 81, 153, 82, 6, 41, 35, 37, 35, 19, 22,
   20, 164, 88, 12, 16, 18, 162, 156, 34, 187, 1, 18, 64, 195, 68, 137, 132, 168, 18, 83, 20,
   204, 228, 127, 22, 183, 13, 141, 145, 85, 173, 210, 228, 66, 51, 153, 20, 136, 28, 46, 170,
   1, 112, 223, 83, 225, 48, 38, 181, 192, 207, 182, 104, 250, 196, 151, 217, 26, 141, 80, 20,
   44, 1, 6, 149, 195, 184, 3, 181, 9, 252, 224, 54, 124, 156, 156, 225, 121, 240, 140, 80, 16,
   153, 179, 3, 124, 135, 49, 106, 60, 113, 110, 79, 84, 45, 175, 203, 64, 241, 24, 109, 107, 3,
   192, 48, 99, 171, 141, 56, 64, 78, 32, 120, 72, 27, 88, 144, 163, 39, 9, 184, 199, 96, 247,
   156, 47, 245, 177, 216, 136, 218, 103, 251, 155, 161, 41, 233, 41, 129, 130, 65, 19, 3, 146,
   170, 126, 112, 48, 206, 244, 165, 152, 81, 114, 206, 71, 211, 9, 13, 46, 236, 246, 166, 156,
   136, 140, 68, 71, 130, 42, 0, 231, 234, 249, 188, 178, 68, 252, 206, 63, 220, 199, 205, 153,
   77, 230, 32, 207, 147, 59, 197, 70, 222, 115, 248, 146, 16, 54, 213, 247, 131, 117, 106, 93,
   156, 100, 148, 42, 54, 6, 31, 79]

/-- The digest of the frame. -/
def carrierSha256 : Sha256 :=
  ⟨"76f0b9e066ef369702a5dc8bca3a5b9bc32c0a470026fc08100ea2f8f2d43980", by decide +kernel⟩

/-- The path of the part, without its suffix. -/
def carrierPart : String :=
  "raw/binance/_control/2024/02/29/00/part-1709164800000000000-0"

/-- The manifest of the carrier, as the service publishes it or as a recovery does. -/
def carrierManifestBytes (m : ManifestFields) : Bytes :=
  let recovery := m.closeReason = .recovery
  let measured (value : Bytes) := if recovery then ascii "null" else value
  let recovered (value : Bytes) := if recovery then value else ascii "null"
  let unavailable := (ascii ",").intercalate (m.unavailableFields.map quoted)
  jsonObject
    [("schema_version", ascii "1"), ("exchange", quoted "binance"), ("market", ascii "null"),
     ("instrument_key", ascii "null"), ("logical_stream", quoted "_control"),
     ("wire_symbols", ascii "[]"),
     ("data_relative_path", quoted (carrierPart ++ ".jsonl.zst")),
     ("manifest_relative_path", quoted (carrierPart ++ ".manifest.json")),
     ("file_size_bytes", ascii "610"), ("file_sha256", quoted carrierSha256.hex),
     ("zstd_level", measured (ascii "3")), ("zstd_write_checksum", ascii "true"),
     ("zstd_write_content_size", ascii "true"),
     ("max_plain_frame_bytes", measured (ascii "1048576")), ("record_count", ascii "1"),
     ("first_received_at_ns", ascii "1709164800000000000"),
     ("last_received_at_ns", ascii "1709164800000000000"),
     ("first_event_time_ns", ascii "null"), ("last_event_time_ns", ascii "null"),
     ("worker_instance_id", quoted "w"), ("connection_generations", ascii "[]"),
     ("writer_sequence_first", ascii "1"), ("writer_sequence_last", ascii "1"),
     ("config_sha256", quoted carrierWriter.configSha256), ("egress_ids", ascii "[]"),
     ("requested_intervals_ns", ascii "[]"), ("effective_intervals_ns", ascii "[]"),
     ("gap_count", measured (ascii "0")), ("reconnect_count", measured (ascii "0")),
     ("parse_error_count", measured (ascii "0")),
     ("checksum_error_count", measured (ascii "0")),
     ("queue_overflow_count", measured (ascii "0")),
     ("control_event_ids", measured (ascii "[]")),
     ("durability_measurement",
       if recovery then quoted "unavailable_after_crash" else quoted "measured"),
     ("durability_sample_count", measured (ascii "1")),
     ("durability_lag_p50_ns", measured (ascii "2500000")),
     ("durability_lag_p95_ns", measured (ascii "2500000")),
     ("durability_lag_p99_ns", measured (ascii "2500000")),
     ("durability_lag_max_ns", measured (ascii "1999000")),
     ("sync_count", measured (ascii "1")),
     ("sync_duration_total_ns", measured (ascii "500000")),
     ("sync_duration_max_ns", measured (ascii "500000")),
     ("slo_breach_count", measured (ascii "0")), ("write_failure_count", measured (ascii "0")),
     ("sync_failure_count", measured (ascii "0")),
     ("close_reason", if recovery then quoted "recovery" else quoted "recovery_control"),
     ("created_at_ns", measured (ascii (toString m.closedAtNs))),
     ("closed_at_ns", ascii (toString m.closedAtNs)),
     ("recovery_transaction_id", recovered (quoted carrierTransaction)),
     ("recovery_source_state", recovered (quoted "owned_control_carrier")),
     ("recovery_source_relative_path", recovered (quoted (carrierPart ++ ".jsonl.zst.partial"))),
     ("recovery_source_bytes", recovered (ascii "610")),
     ("recovery_source_sha256", recovered (quoted carrierSha256.hex)),
     ("recovery_control_event_id", recovered (quoted carrierEvent)),
     ("recovered_frame_count", recovered (ascii "1")),
     ("recovered_record_count", recovered (ascii "1")),
     ("recovered_bytes", recovered (ascii "610")),
     ("recovered_sha256", recovered (quoted carrierSha256.hex)),
     ("quarantined_suffix_relative_path", ascii "null"),
     ("quarantined_suffix_bytes", ascii "null"), ("quarantined_suffix_sha256", ascii "null"),
     ("unavailable_fields", ascii "[" ++ unavailable ++ ascii "]")] ++ [10]

/-- The fields of the normal manifest. -/
def carrierFields (createdAtNs : Nat) : ManifestFields where
  exchange := .binance
  market := none
  instrumentKey := none
  logicalStream := "_control"
  wireSymbols := []
  dataRelativePath := carrierPart ++ ".jsonl.zst"
  manifestRelativePath := carrierPart ++ ".manifest.json"
  fileSizeBytes := 610
  fileSha256 := carrierSha256.hex
  zstdLevel := some 3
  maxPlainFrameBytes := some 1048576
  recordCount := 1
  firstReceivedAtNs := carrierHour
  lastReceivedAtNs := carrierHour
  firstEventTimeNs := none
  lastEventTimeNs := none
  workerInstanceId := "w"
  connectionGenerations := []
  writerSequenceFirst := 1
  writerSequenceLast := 1
  configSha256 := carrierWriter.configSha256
  egressIds := []
  requestedIntervalsNs := []
  effectiveIntervalsNs := []
  gapCount := some 0
  reconnectCount := some 0
  parseErrorCount := some 0
  checksumErrorCount := some 0
  queueOverflowCount := some 0
  controlEventIds := some []
  durabilityMeasurement := .measured
  durabilitySampleCount := some 1
  durabilityLagP50Ns := some 2500000
  durabilityLagP95Ns := some 2500000
  durabilityLagP99Ns := some 2500000
  durabilityLagMaxNs := some 1999000
  syncCount := some 1
  syncDurationTotalNs := some 500000
  syncDurationMaxNs := some 500000
  sloBreachCount := some 0
  writeFailureCount := some 0
  syncFailureCount := some 0
  closeReason := .recoveryControl
  createdAtNs := some createdAtNs
  closedAtNs := createdAtNs
  recoveryTransactionId := none
  recoverySourceState := none
  recoverySourceRelativePath := none
  recoverySourceBytes := none
  recoverySourceSha256 := none
  recoveryControlEventId := none
  recoveredFrameCount := none
  recoveredRecordCount := none
  recoveredBytes := none
  recoveredSha256 := none
  quarantinedSuffixRelativePath := none
  quarantinedSuffixBytes := none
  quarantinedSuffixSha256 := none
  unavailableFields := []

/-- The envelope of the control row. -/
def quarantinedEnvelope : RawEnvelope :=
  ⟨controlEnvelope carrierWriter quarantinedPending (carrierReadings carrierHour),
    by decide +kernel⟩

/-- The packages on the data of the carrier. The wall clock stands still or steps back by a
nanosecond. -/
def carrierCodec : CarrierCodec where
  decoder := .ofFrame 40 quarantinedRest quarantinedLine
  frameParameters _ := some ⟨true, quarantinedLine.length⟩
  decodeObject _ := .ok quarantinedEnvelope
  sha256 b :=
    if b = 40 :: quarantinedRest then carrierSha256
    else if b = quarantinedLine then
      ⟨"150f6bf91839d3ad0c7bf93ddfb3d00d798514ed0c20529f14daf74cfc77e8b5", by decide +kernel⟩
    else
      ⟨"c3b79470446314d9d483bee90206f2a88c1aace24628854b1708283c0f319dd7", by decide +kernel⟩
  uuid5 _ := ""
  manifestBytes m := carrierManifestBytes m.toManifestFields
  intentBytes _ := []
  compress _ := 40 :: quarantinedRest
  encodeEnvelope _ := quarantinedLine
  parseManifest b := .ok <|
    if b = carrierManifestBytes (carrierFields carrierHour) then carrierFields carrierHour
    else carrierFields (carrierHour - 1)

/-- The record of the control row. -/
def carrierRow : Row where
  envelope := quarantinedEnvelope
  encodedJsonl := quarantinedLine
  identity :=
    { key := .control
      writerSequence := 1
      acceptanceOrdinal := 0
      configSha256 := carrierWriter.configSha256
      configGeneration := 0
      exchange := .binance
      workerInstanceId := "w" }

/-- The admission of the control row. -/
def carrierAdmission : ControlAdmission where
  transactionId := carrierTransaction
  recoveryControlEventId := carrierEvent
  row := carrierRow
  generationId := 0
  dataRelativePath := carrierPart ++ ".jsonl.zst"
  manifestRelativePath := carrierPart ++ ".manifest.json"
  frame := 40 :: quarantinedRest
  zstdLevel := 3
  maxPlainFrameBytes := 1048576

theorem acceptControl_carrier (createdAtNs : Nat) :
    acceptControl carrierCodec carrierWriter quarantinedPending (carrierReadings createdAtNs) =
      .ok carrierRow := by
  have hvalid : (controlEnvelope carrierWriter quarantinedPending
      (carrierReadings createdAtNs)).validate = none := quarantinedEnvelope.valid
  unfold acceptControl
  split
  · next h => simp [hvalid] at h
  · rfl

theorem manifestPath_carrier :
    manifestPathForData (carrierPart ++ ".jsonl.zst") = .ok (carrierPart ++ ".manifest.json") := by
  decide +kernel

theorem rawDataPath_carrier :
    rawDataPath quarantinedEnvelope.toEnvelopeFields carrierHour 0 =
      .ok (carrierPart ++ ".jsonl.zst") := by
  decide +kernel

/-- The ownership of the carrier is bound. -/
theorem ownership_carrier :
    ∃ o, ownershipFromAdmission carrierCodec carrierAdmission carrierHour = .ok o := by
  obtain ⟨scan, hscan, hread⟩ := ok_of_map (show
      (scanRecoveryFrames carrierCodec.toCodec (40 :: quarantinedRest)
        (carrierPart ++ ".jsonl.zst" ++ ".partial")).toOption.map (fun scan =>
          (holdsExactly scan (40 :: quarantinedRest) quarantinedEnvelope,
            (carrierRecoveryManifest carrierCodec scan (40 :: quarantinedRest)
              (carrierPart ++ ".jsonl.zst") carrierTransaction carrierHour).toOption.map
                fun _ => ())) =
      some (true, some ()) by decide +kernel)
  obtain ⟨hexact, hmanifest⟩ := Prod.ext_iff.1 hread
  obtain ⟨manifest, hmanifest, -⟩ := ok_of_map hmanifest
  have hevent : carrierEvent = recoveryEventPrefix ++ carrierTransaction := by decide +kernel
  simp only [ownershipFromAdmission, carrierAdmission, hscan, hmanifest, ok_bind]
  refine ⟨_, ControlOwnership.create_of_valid ?_⟩
  simp only [OwnershipFields.validate, manifestPath_carrier, hscan, hmanifest, ok_bind]
  have hrow : (carrierRow.identity.exchange, carrierRow.identity.key.market,
      carrierRow.identity.key.instrumentKey, carrierRow.identity.workerInstanceId,
      carrierRow.identity.writerSequence, carrierRow.identity.configSha256) =
      (carrierRow.envelope.exchange, carrierRow.envelope.market,
        carrierRow.envelope.instrumentKey, carrierRow.envelope.workerInstanceId,
        carrierRow.envelope.writerSequence, carrierRow.envelope.configSha256) := rfl
  have hstream : carrierRow.identity.key.logicalStream = "_control" := rfl
  have hinternal : OwnershipFields.isInternal carrierRow.envelope = true := by decide +kernel
  have hexact' : holdsExactly scan (40 :: quarantinedRest) carrierRow.envelope = true := hexact
  have hencoded : carrierCodec.encodeEnvelope carrierRow.envelope = carrierRow.encodedJsonl := rfl
  simp [hevent, ManifestFields.raise, refuseIf, hexact', hinternal, hrow, hstream, hencoded]

theorem close_carrier {createdAtNs : Nat}
    (h : createdAtNs = carrierHour ∨ createdAtNs = carrierHour - 1) :
    ((do
      let a ← ActivePart.allocate carrierRow carrierHour 0 createdAtNs 3 1048576 5000000000
      let a ← attempt (ActivePart.appendAccepted carrierRow) a
      closeCarrier carrierCodec a (carrierReadings createdAtNs)) : Except Err _).toOption.map
        (·.2.toManifestFields) = some (carrierFields createdAtNs) := by
  rcases h with rfl | rfl <;> decide +kernel

/-- The carrier is published. -/
theorem process_carrier {createdAtNs : Nat}
    (h : createdAtNs = carrierHour ∨ createdAtNs = carrierHour - 1) :
    ∃ c, processPendingRecoveryControl carrierCodec carrierWriter quarantinedPending
        (carrierReadings createdAtNs) = .ok c ∧
      c.manifest.toManifestFields = carrierFields createdAtNs := by
  obtain ⟨o, ho⟩ := ownership_carrier
  obtain ⟨closed, hclosed, hfields⟩ := ok_of_map (close_carrier h)
  simp only [bind_eq_ok] at hclosed
  obtain ⟨a, ha, b, hb, hclosed⟩ := hclosed
  refine ⟨⟨o, closed.1, closed.2, ⟨carrierTransaction, carrierEvent, carrierRow.identity, 0,
    carrierPart ++ ".jsonl.zst", (carrierCodec.sha256 quarantinedLine).hex⟩⟩, ?_, hfields⟩
  have hpath : rawDataPath carrierRow.envelope.toEnvelopeFields
      (carrierReadings createdAtNs).partStartNs (carrierReadings createdAtNs).partSequence =
      .ok (carrierPart ++ ".jsonl.zst") := rawDataPath_carrier
  unfold processPendingRecoveryControl
  rw [acceptControl_carrier, ok_bind, hpath, ok_bind, manifestPath_carrier, ok_bind]
  change (ownershipFromAdmission carrierCodec carrierAdmission carrierHour >>= fun o => _) = _
  rw [ho, ok_bind]
  change (ActivePart.allocate carrierRow carrierHour 0 createdAtNs 3 1048576 5000000000 >>=
    fun a => _) = _
  rw [ha, ok_bind, hb, ok_bind, hclosed, ok_bind]
  rfl

theorem parseManifest_carrier {createdAtNs : Nat}
    (h : createdAtNs = carrierHour ∨ createdAtNs = carrierHour - 1) :
    carrierCodec.parseManifest (carrierManifestBytes (carrierFields createdAtNs)) =
      .ok (carrierFields createdAtNs) := by
  rcases h with rfl | rfl
  · exact congrArg Except.ok (if_pos rfl)
  · have hne : carrierManifestBytes (carrierFields (carrierHour - 1)) ≠
        carrierManifestBytes (carrierFields carrierHour) := by
      decide +kernel
    exact congrArg Except.ok (if_neg hne)

/-- While the clock stands still the carrier is accepted. -/
theorem steadyClock_accepted : ∃ c, processPendingRecoveryControl carrierCodec carrierWriter
      quarantinedPending (carrierReadings carrierHour) = .ok c ∧
    validateNormalOwnedControlManifest carrierCodec (carrierCodec.manifestBytes c.manifest)
        c.ownership.toOwnershipFields = .ok () ∧
      ∀ root, c.OnDisk root →
        acknowledgeControlDurable carrierCodec root (.ok ()) c.ownership.toOwnershipFields
            c.receipt = .ok () ∧
          verifyOwnedControlCarrier carrierCodec root c.ownership.toOwnershipFields = .ok () := by
  obtain ⟨c, hc, hfields⟩ := process_carrier (Or.inl rfl)
  have hjson : carrierCodec.parseManifest (carrierCodec.manifestBytes c.manifest) =
      .ok c.manifest.toManifestFields := by
    change carrierCodec.parseManifest (carrierManifestBytes c.manifest.toManifestFields) = _
    rw [hfields]
    exact parseManifest_carrier (Or.inl rfl)
  exact ⟨c, hc, (carrier_accepted_iff hc hjson).2 ⟨le_rfl, le_rfl⟩⟩

/-- After the clock stepped back by a nanosecond the carrier is refused. -/
theorem steppedClock_refused : ∃ c, processPendingRecoveryControl carrierCodec carrierWriter
      quarantinedPending (carrierReadings (carrierHour - 1)) = .ok c ∧
    carrierCodec.parseManifest (carrierCodec.manifestBytes c.manifest) =
      .ok c.manifest.toManifestFields ∧
    validateNormalOwnedControlManifest carrierCodec (carrierCodec.manifestBytes c.manifest)
      c.ownership.toOwnershipFields ≠ .ok () := by
  obtain ⟨c, hc, hfields⟩ := process_carrier (Or.inr rfl)
  have hjson : carrierCodec.parseManifest (carrierCodec.manifestBytes c.manifest) =
      .ok c.manifest.toManifestFields := by
    change carrierCodec.parseManifest (carrierManifestBytes c.manifest.toManifestFields) = _
    rw [hfields]
    exact parseManifest_carrier (Or.inr rfl)
  refine ⟨c, hc, hjson, ?_⟩
  intro hvalid
  have htimes := ((validateNormal_iff hc hjson).1 hvalid).1
  have : carrierHour ≤ carrierHour - 1 := htimes
  simp [carrierHour] at this

end Example

end CryptoCollector.Storage.Recovery
