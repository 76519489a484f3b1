import CryptoCollector.Storage.Recovery.Intent
import CryptoCollector.Storage.Recovery.Streaming

/-!
# Planning the recovery of a source

`storage/recovery.py: plan_recovery_source`, which holds the whole source, and
`_plan_streaming_recovery_source`, which has only the facts of a streaming scan.

* `RecoveryPlan.create_of_planned` : the checks of a whole-file plan pass.
* `planStreamingRecoverySource_eq` : both functions plan the same.
* `streaming_agrees` : streaming recovery and whole-file recovery agree.
-/

namespace CryptoCollector.Storage.Recovery

open Lib
open ManifestFields (raise)

variable (enc : Encoders)

/-- The call of `RecoveryIntentV1.create` that ends both planners. -/
def createPlannedIntent (sourceRelativePath transactionId : String) (createdAtNs : Nat)
    (sourceState : RecoverySourceState) (disposition : RecoverySourceDisposition)
    (sourceSizeBytes : Nat) (sourceSha256 : Sha256) (data : Option PlannedBytes)
    (manifest : Option RawManifest) (quarantine : Option PlannedBytes) :
    Except Err RecoveryIntent := do
  let generation ← data.mapM fun d => recoveryGenerationId enc d.path
  RecoveryIntent.create enc
    { transactionId
      createdAtNs
      sourceState
      sourceRelativePath
      sourceSizeBytes
      sourceSha256 := sourceSha256.hex
      plannedSourceDisposition := disposition
      plannedDataGenerationId := generation
      plannedDataRelativePath := data.map (·.path)
      plannedDataSizeBytes := data.map (·.sizeBytes)
      plannedDataSha256 := data.map (·.sha256.hex)
      plannedManifestRelativePath := manifest.map (·.manifestRelativePath)
      plannedManifestSizeBytes := manifest.map fun m => (enc.manifestBytes m).length
      plannedManifestSha256 := manifest.map fun m => (enc.sha256 (enc.manifestBytes m)).hex
      plannedQuarantineRelativePath := quarantine.map (·.path)
      plannedQuarantineSizeBytes := quarantine.map (·.sizeBytes)
      plannedQuarantineSha256 := quarantine.map (·.sha256.hex)
      cleanupProofKind := none
      cleanupProofRelativePath := none
      cleanupProofSizeBytes := none
      cleanupProofSha256 := none
      recoveryControlEventId := recoveryEventPrefix ++ transactionId }

/-! ## The whole-file plan -/

/-- `RecoveryPlan`. -/
structure RecoveryPlan where
  intent : RecoveryIntent
  manifest : Option RawManifest
  recoveredDataBytes : Option Bytes
  quarantineBytes : Option Bytes

/-- The `__post_init__` of `RecoveryPlan`. -/
def RecoveryPlan.validate (p : RecoveryPlan) : Option Err :=
  let f := p.intent.fields
  refuseIf (p.manifest.isNone != f.plannedManifestRelativePath.isNone)
    "recovery plan manifest does not match its intent" <|>
  refuseIf (p.manifest.any fun m =>
      f.plannedManifestSizeBytes ≠ some (enc.manifestBytes m).length ||
        f.plannedManifestSha256 ≠ some (enc.sha256 (enc.manifestBytes m)).hex)
    "recovery plan manifest bytes do not match intent" <|>
  refuseIf (p.recoveredDataBytes.any fun bytes =>
      f.plannedDataSizeBytes ≠ some bytes.length ||
        f.plannedDataSha256 ≠ some (enc.sha256 bytes).hex)
    "recovery plan recovered data does not match intent" <|>
  refuseIf (p.recoveredDataBytes.isNone && f.plannedSourceDisposition = .removed)
    "removed recovery plan requires recovered data bytes" <|>
  refuseIf (p.recoveredDataBytes.isSome && f.plannedDataRelativePath.isNone)
    "recovery plan has unplanned recovered data" <|>
  refuseIf (p.quarantineBytes.isNone != f.plannedQuarantineRelativePath.isNone)
    "recovery plan quarantine does not match its intent" <|>
  refuseIf (p.quarantineBytes.any fun bytes =>
      f.plannedQuarantineSizeBytes ≠ some bytes.length ||
        f.plannedQuarantineSha256 ≠ some (enc.sha256 bytes).hex)
    "recovery plan quarantine bytes do not match intent"

/-- The constructor of `RecoveryPlan`. -/
def RecoveryPlan.create (p : RecoveryPlan) : Except Err RecoveryPlan := do
  raise (p.validate enc)
  return p

/-- A byte string of a plan under its path. -/
def plannedBytes (path : String) (bytes : Bytes) : PlannedBytes :=
  ⟨path, bytes.length, enc.sha256 bytes⟩

/-- `_recovery_manifest`. -/
def recoveryManifest (scan : RecoveryFrameScan) (source : Bytes) (sourceRelativePath : String)
    (sourceState : RecoverySourceState) (transactionId : String) (createdAtNs : Nat)
    (data : PlannedBytes) (quarantine : Option PlannedBytes) : Except Err RawManifest :=
  match (({} : RowFactsBuilder).extend scan.rows).freeze with
  | none => .error (.valueError "recovery manifest requires validated rows")
  | some rowFacts =>
    recoveryManifestFromFacts rowFacts scan.frames.length source.length (enc.sha256 source)
      sourceRelativePath sourceState transactionId createdAtNs data quarantine

/-- The quarantine path of a suffix, when there is one. -/
def badTailPath (suffix : Bytes) (sourceRelativePath : String) : Except Err (Option String) :=
  if suffix = [] then .ok none
  else do return some (← badTailQuarantineRelativePath sourceRelativePath)

/-- `plan_recovery_source`. -/
def planRecoverySource (sourceRelativePath : String) (source : Bytes) (transactionId : String)
    (createdAtNs nextPartSequence : Nat) : Except Err RecoveryPlan := do
  let scan ← scanRecoveryFrames enc.toCodec source sourceRelativePath
  let isPartial := endsWith sourceRelativePath ".jsonl.zst.partial"
  raise (refuseIf (!isPartial && !endsWith sourceRelativePath ".jsonl.zst")
    "recovery source must be partial or closed raw data")
  if isPartial ∧ scan.frames ≠ [] then do
    let recovered := source.take scan.validPrefixSizeBytes
    let suffix := source.drop scan.validPrefixSizeBytes
    let sourceState := if suffix = [] then RecoverySourceState.partialComplete
      else .partialTruncated
    let dataRelativePath ← nextRecoveryRelativePath sourceRelativePath nextPartSequence
    let quarantinePath ← badTailPath suffix sourceRelativePath
    let quarantine := quarantinePath.map fun path => plannedBytes enc path suffix
    let manifest ← recoveryManifest enc scan source sourceRelativePath sourceState transactionId
      createdAtNs (plannedBytes enc dataRelativePath recovered) quarantine
    let intent ← createPlannedIntent enc sourceRelativePath transactionId createdAtNs sourceState
      .removed source.length (enc.sha256 source)
      (some (plannedBytes enc dataRelativePath recovered)) (some manifest) quarantine
    RecoveryPlan.create enc ⟨intent, some manifest, some recovered,
      if suffix = [] then none else some suffix⟩
  else if !isPartial ∧ scan.frames ≠ [] ∧ scan.validPrefixSizeBytes = source.length then do
    let data := plannedBytes enc sourceRelativePath source
    let manifest ← recoveryManifest enc scan source sourceRelativePath .orphanClosedData
      transactionId createdAtNs data none
    let intent ← createPlannedIntent enc sourceRelativePath transactionId createdAtNs
      .orphanClosedData .retained source.length (enc.sha256 source) (some data) (some manifest) none
    RecoveryPlan.create enc ⟨intent, some manifest, none, none⟩
  else do
    let sourceState := if isPartial then RecoverySourceState.partialTruncated
      else .orphanClosedData
    let quarantinePath ← wholeSourceQuarantineRelativePath sourceRelativePath
    let intent ← createPlannedIntent enc sourceRelativePath transactionId createdAtNs sourceState
      .movedToQuarantine source.length (enc.sha256 source) none none
      (some (plannedBytes enc quarantinePath source))
    RecoveryPlan.create enc ⟨intent, none, none, some source⟩

/-! ## The streaming plan -/

/-- `RecoveryByteRange`. -/
structure RecoveryByteRange where
  startOffset : Nat
  sizeBytes : Nat
  sha256 : Sha256
  deriving DecidableEq

/-- A range as planned bytes. -/
def RecoveryByteRange.planned (r : RecoveryByteRange) (path : String) : PlannedBytes :=
  ⟨path, r.sizeBytes, r.sha256⟩

/-- `StreamingRecoveryPlan`. -/
structure StreamingRecoveryPlan where
  intent : RecoveryIntent
  manifest : Option RawManifest
  recoveredRange : Option RecoveryByteRange
  quarantineRange : Option RecoveryByteRange

/-- The quarantine path and range of an invalid suffix, when there is one. -/
def badTailRange (scan : StreamingRecoveryScan) (sourceRelativePath : String) :
    Except Err (Option (String × RecoveryByteRange)) :=
  if scan.invalidSuffixSizeBytes = 0 then .ok none
  else do
    let path ← badTailQuarantineRelativePath sourceRelativePath
    match scan.invalidSuffixSha256 with
    | none => throw (.assertionError "invalid_suffix_sha256 is not None")
    | some sha256 =>
      return some (path, ⟨scan.validPrefixSizeBytes, scan.invalidSuffixSizeBytes, sha256⟩)

/-- `_plan_streaming_recovery_source`. -/
def planStreamingRecoverySource (sourceRelativePath : String) (scan : StreamingRecoveryScan)
    (transactionId : String) (createdAtNs nextPartSequence : Nat) :
    Except Err StreamingRecoveryPlan := do
  let isPartial := endsWith sourceRelativePath ".jsonl.zst.partial"
  raise (refuseIf (!isPartial && !endsWith sourceRelativePath ".jsonl.zst")
    "recovery source must be partial or closed raw data")
  if isPartial ∧ 0 < scan.validPrefixSizeBytes then
    match scan.rowFacts with
    | none => throw (.valueError "valid recovery prefix requires row facts")
    | some rowFacts => do
      let dataRelativePath ← nextRecoveryRelativePath sourceRelativePath nextPartSequence
      let recovered : RecoveryByteRange := ⟨0, scan.validPrefixSizeBytes, scan.validPrefixSha256⟩
      let quarantine ← badTailRange scan sourceRelativePath
      let sourceState := if scan.invalidSuffixSizeBytes = 0 then
        RecoverySourceState.partialComplete else .partialTruncated
      let planned := quarantine.map fun q => q.2.planned q.1
      let manifest ← recoveryManifestFromFacts rowFacts scan.frameCount scan.sourceSizeBytes
        scan.sourceSha256 sourceRelativePath sourceState transactionId createdAtNs
        (recovered.planned dataRelativePath) planned
      let intent ← createPlannedIntent enc sourceRelativePath transactionId createdAtNs
        sourceState .removed scan.sourceSizeBytes scan.sourceSha256
        (some (recovered.planned dataRelativePath)) (some manifest) planned
      return ⟨intent, some manifest, some recovered, quarantine.map (·.2)⟩
  else if !isPartial ∧ scan.validPrefixSizeBytes = scan.sourceSizeBytes ∧
      0 < scan.validPrefixSizeBytes then
    match scan.rowFacts with
    | none => throw (.valueError "valid closed recovery source requires row facts")
    | some rowFacts => do
      let data : PlannedBytes := ⟨sourceRelativePath, scan.sourceSizeBytes, scan.sourceSha256⟩
      let manifest ← recoveryManifestFromFacts rowFacts scan.frameCount scan.sourceSizeBytes
        scan.sourceSha256 sourceRelativePath .orphanClosedData transactionId createdAtNs data none
      let intent ← createPlannedIntent enc sourceRelativePath transactionId createdAtNs
        .orphanClosedData .retained scan.sourceSizeBytes scan.sourceSha256 (some data)
        (some manifest) none
      return ⟨intent, some manifest, none, none⟩
  else do
    let sourceState := if isPartial then RecoverySourceState.partialTruncated
      else .orphanClosedData
    let quarantinePath ← wholeSourceQuarantineRelativePath sourceRelativePath
    let range : RecoveryByteRange := ⟨0, scan.sourceSizeBytes, scan.sourceSha256⟩
    let intent ← createPlannedIntent enc sourceRelativePath transactionId createdAtNs sourceState
      .movedToQuarantine scan.sourceSizeBytes scan.sourceSha256 none none
      (some (range.planned quarantinePath))
    return ⟨intent, none, none, some range⟩

/-! ## Both plan the same -/

variable {enc}

/-- A range covers the bytes of a whole-file plan. -/
structure RecoveryByteRange.Covers (enc : Encoders) (source : Bytes) (r : RecoveryByteRange)
    (bytes : Bytes) : Prop where
  bytes_eq : (source.drop r.startOffset).take r.sizeBytes = bytes
  size_eq : r.sizeBytes = bytes.length
  sha256_eq : r.sha256 = enc.sha256 bytes

/-- A streaming plan says what a whole-file plan of the source says. -/
structure StreamingRecoveryPlan.Agrees (enc : Encoders) (source : Bytes)
    (s : StreamingRecoveryPlan) (p : RecoveryPlan) : Prop where
  intent_eq : s.intent = p.intent
  manifest_eq : s.manifest = p.manifest
  recovered : Option.Rel (RecoveryByteRange.Covers enc source) s.recoveredRange
    p.recoveredDataBytes
  quarantined : Option.Rel (RecoveryByteRange.Covers enc source) s.quarantineRange
    p.quarantineBytes

/-- Two planners end the same way: with plans that agree or with the same error. -/
def SamePlan (enc : Encoders) (source : Bytes) :
    Except Err StreamingRecoveryPlan → Except Err RecoveryPlan → Prop
  | .ok s, .ok p => s.Agrees enc source p
  | .error e, .error e' => e = e'
  | _, _ => False

namespace SamePlan

variable {α : Type} {source : Bytes}

/-- Planners that begin with the same computation. -/
theorem bind {x : Except Err α} {f : α → Except Err StreamingRecoveryPlan}
    {g : α → Except Err RecoveryPlan} (h : ∀ a, x = .ok a → SamePlan enc source (f a) (g a)) :
    SamePlan enc source (x >>= f) (x >>= g) := by
  cases x with
  | error e => exact rfl
  | ok a => exact h a rfl

end SamePlan

theorem fields_of_createPlannedIntent {path transactionId : String} {createdAtNs : Nat}
    {state : RecoverySourceState} {disposition : RecoverySourceDisposition} {size : Nat}
    {sha256 : Sha256} {data quarantine : Option PlannedBytes} {manifest : Option RawManifest}
    {intent : RecoveryIntent}
    (h : createPlannedIntent enc path transactionId createdAtNs state disposition size sha256 data
      manifest quarantine = .ok intent) :
    intent.fields.plannedSourceDisposition = disposition ∧
      intent.fields.plannedDataRelativePath = data.map (·.path) ∧
      intent.fields.plannedDataSizeBytes = data.map (·.sizeBytes) ∧
      intent.fields.plannedDataSha256 = data.map (·.sha256.hex) ∧
      intent.fields.plannedManifestRelativePath = manifest.map (·.manifestRelativePath) ∧
      intent.fields.plannedManifestSizeBytes =
        manifest.map (fun m => (enc.manifestBytes m).length) ∧
      intent.fields.plannedManifestSha256 =
        manifest.map (fun m => (enc.sha256 (enc.manifestBytes m)).hex) ∧
      intent.fields.plannedQuarantineRelativePath = quarantine.map (·.path) ∧
      intent.fields.plannedQuarantineSizeBytes = quarantine.map (·.sizeBytes) ∧
      intent.fields.plannedQuarantineSha256 = quarantine.map (·.sha256.hex) := by
  unfold createPlannedIntent at h
  cases hgen : data.mapM fun d => recoveryGenerationId enc d.path with
  | error e => simp [hgen, Bind.bind, Except.bind] at h
  | ok generation =>
    simp only [hgen, Bind.bind, Except.bind] at h
    rw [RecoveryIntent.fields_of_create h]
    exact ⟨rfl, rfl, rfl, rfl, rfl, rfl, rfl, rfl, rfl, rfl⟩

/-- The checks of a whole-file plan pass for the bytes that its intent was created with. -/
theorem RecoveryPlan.create_of_planned (dataPath quarantinePath : String)
    (quarantine : Option Bytes) {path transactionId : String}
    {createdAtNs : Nat} {state : RecoverySourceState} {disposition : RecoverySourceDisposition}
    {size : Nat} {sha256 : Sha256} {data : Option PlannedBytes} {recovered : Option Bytes}
    {manifest : Option RawManifest} {intent : RecoveryIntent}
    (hdata : ∀ bytes ∈ recovered, data = some (plannedBytes enc dataPath bytes))
    (hremoved : recovered = none → disposition ≠ .removed)
    (h : createPlannedIntent enc path transactionId createdAtNs state disposition size sha256 data
      manifest (quarantine.map (plannedBytes enc quarantinePath)) = .ok intent) :
    create enc ⟨intent, manifest, recovered, quarantine⟩ =
      .ok ⟨intent, manifest, recovered, quarantine⟩ := by
  obtain ⟨h₁, h₂, h₃, h₄, h₅, h₆, h₇, h₈, h₉, h₁₀⟩ := fields_of_createPlannedIntent h
  have hvalid : validate enc ⟨intent, manifest, recovered, quarantine⟩ = none := by
    unfold validate
    simp only [h₁, h₂, h₃, h₄, h₅, h₆, h₇, h₈, h₉, h₁₀]
    cases recovered with
    | none =>
      have := hremoved rfl
      cases manifest <;> cases quarantine <;> simp [refuseIf, this, plannedBytes]
    | some bytes =>
      rw [hdata bytes rfl]
      cases manifest <;> cases quarantine <;> simp [refuseIf, plannedBytes]
  rw [create, hvalid]
  rfl

/-- What the planners need to know of a whole-file scan. -/
theorem scan_facts {codec : Codec} {source : Bytes} {path : String} {scan : RecoveryFrameScan}
    (h : scanRecoveryFrames codec source path = .ok scan) :
    scan.validPrefixSizeBytes ≤ source.length ∧
      scan.invalidSuffixSizeBytes = source.length - scan.validPrefixSizeBytes ∧
      (0 < scan.validPrefixSizeBytes ↔ scan.frames ≠ []) ∧
      (scan.frames ≠ [] → ∃ facts, (({} : RowFactsBuilder).extend scan.rows).freeze = some facts) := by
  rw [scanRecoveryFrames_eq] at h
  cases hpath : parseSourcePath path with
  | error e => simp [hpath, Bind.bind, Except.bind] at h
  | ok identity =>
    cases htake : takeValid codec identity {} source with
    | error e => simp [hpath, htake, Bind.bind, Except.bind] at h
    | ok r =>
      obtain ⟨c, rest⟩ := r
      obtain rfl : c.toScan source = scan := by
        simpa [hpath, htake, Bind.bind, Except.bind, pure, Except.pure] using h
      have hbytes : c.bytes ++ rest = source := bytes_append_of_takeValid htake
      have hpos : c.frames ≠ [] → 0 < c.bytes.length := by
        refine Lib.Decoder.takeFrames_induction
          (P := fun c₁ _ => c₁.frames ≠ [] → 0 < c₁.bytes.length) (by simp) ?_ htake
        intro now next hstep _ _
        obtain ⟨plain, rows, seen, hfeed, -, hnext⟩ := TakeStep.cases hstep
        have hlt := codec.decoder.unused_length_lt hfeed
        rw [hnext, Taken.bytes_push, List.length_append, List.length_take]
        omega
      have hframes : (c.toScan source).frames ≠ [] ↔ c.frames ≠ [] := by
        rw [← List.length_pos_iff, ← List.length_pos_iff]
        simp [Taken.toScan]
      refine ⟨?_, rfl, ?_, ?_⟩
      · simp [Taken.toScan, ← hbytes]
      · rw [hframes]
        refine ⟨fun hlt hnil => ?_, hpos⟩
        simp [Taken.toScan, Taken.bytes, hnil] at hlt
      · intro hne
        have hrows := rows_of_takeValid htake (by simp) (hframes.1 hne)
        have hsome := RowFactsBuilder.freeze_extend_isSome hrows
        rw [RecoveryFrameScan.rows, Taken.toScan, Taken.flatMap_locate]
        exact Option.isSome_iff_exists.1 hsome

/-- **Planning from the streaming scan of a source is planning from its whole-file scan.** -/
theorem planStreamingRecoverySource_eq {source : Bytes} {path transactionId : String}
    {scan : RecoveryFrameScan} (createdAtNs nextPartSequence : Nat)
    (hscan : scanRecoveryFrames enc.toCodec source path = .ok scan) :
    SamePlan enc source
      (planStreamingRecoverySource enc path (scan.summary enc.toCodec source) transactionId
        createdAtNs nextPartSequence)
      (planRecoverySource enc path source transactionId createdAtNs nextPartSequence) := by
  obtain ⟨hle, hsuffix, hpos, hfacts⟩ := scan_facts hscan
  have htake : (source.take scan.validPrefixSizeBytes).length = scan.validPrefixSizeBytes := by
    rw [List.length_take]
    omega
  have hdrop : (source.drop scan.validPrefixSizeBytes).length = scan.invalidSuffixSizeBytes := by
    rw [List.length_drop, hsuffix]
  unfold planStreamingRecoverySource planRecoverySource
  rw [hscan, ok_bind]
  refine SamePlan.bind fun _ _ => ?_
  have hvalid : (scan.summary enc.toCodec source).validPrefixSizeBytes =
    scan.validPrefixSizeBytes := rfl
  have hsource : (scan.summary enc.toCodec source).sourceSizeBytes = source.length := rfl
  simp only [hvalid, hsource, hpos]
  by_cases hpartial : endsWith path ".jsonl.zst.partial" ∧ scan.frames ≠ []
  · rw [if_pos hpartial, if_pos hpartial]
    obtain ⟨facts, hfacts⟩ := hfacts hpartial.2
    have hrow : (scan.summary enc.toCodec source).rowFacts = some facts := hfacts
    simp only [hrow, recoveryManifest, hfacts]
    refine SamePlan.bind fun dataPath _ => ?_
    have hrecovered : (⟨0, scan.validPrefixSizeBytes,
        (scan.summary enc.toCodec source).validPrefixSha256⟩ : RecoveryByteRange).planned dataPath =
        plannedBytes enc dataPath (source.take scan.validPrefixSizeBytes) := by
      simp only [RecoveryByteRange.planned, plannedBytes, htake]
      rfl
    have hcovers : RecoveryByteRange.Covers enc source ⟨0, scan.validPrefixSizeBytes,
        (scan.summary enc.toCodec source).validPrefixSha256⟩
        (source.take scan.validPrefixSizeBytes) := ⟨rfl, htake.symm, rfl⟩
    rw [hrecovered]
    by_cases hempty : source.drop scan.validPrefixSizeBytes = []
    · have hsize : (scan.summary enc.toCodec source).invalidSuffixSizeBytes = 0 := by
        change scan.invalidSuffixSizeBytes = 0
        rw [← hdrop, hempty, List.length_nil]
      simp only [badTailRange, badTailPath, hempty, hsize, if_true, ok_bind, Option.map_none]
      refine SamePlan.bind fun manifest _ => SamePlan.bind fun intent hintent => ?_
      rw [RecoveryPlan.create_of_planned dataPath path none (by simp) (by simp) hintent]
      exact ⟨rfl, rfl, .some hcovers, .none⟩
    · have hne : scan.invalidSuffixSizeBytes ≠ 0 := by
        rw [← hdrop]
        exact fun h => hempty (List.eq_nil_of_length_eq_zero h)
      have hsize : (scan.summary enc.toCodec source).invalidSuffixSizeBytes =
        scan.invalidSuffixSizeBytes := rfl
      have hsha : (scan.summary enc.toCodec source).invalidSuffixSha256 =
          some (enc.sha256 (source.drop scan.validPrefixSizeBytes)) := if_neg hne
      simp only [badTailRange, badTailPath, hempty, hsize, hne, hsha, if_false, bind_assoc]
      refine SamePlan.bind fun tailPath _ => ?_
      have htail : (⟨scan.validPrefixSizeBytes, scan.invalidSuffixSizeBytes,
          enc.sha256 (source.drop scan.validPrefixSizeBytes)⟩ : RecoveryByteRange).planned tailPath =
          plannedBytes enc tailPath (source.drop scan.validPrefixSizeBytes) := by
        simp only [RecoveryByteRange.planned, plannedBytes, hdrop]
      simp only [pure_bind, Option.map_some, hvalid, htail]
      refine SamePlan.bind fun manifest _ => SamePlan.bind fun intent hintent => ?_
      rw [RecoveryPlan.create_of_planned dataPath tailPath
        (some (source.drop scan.validPrefixSizeBytes)) (by simp) (by simp) hintent]
      refine ⟨rfl, rfl, .some hcovers, .some ⟨?_, hdrop.symm, rfl⟩⟩
      rw [← hdrop, List.take_length]
  rw [if_neg hpartial, if_neg hpartial]
  by_cases hclosed : !endsWith path ".jsonl.zst.partial" ∧ scan.frames ≠ [] ∧
      scan.validPrefixSizeBytes = source.length
  · rw [if_pos ⟨hclosed.1, hclosed.2.2, hclosed.2.1⟩, if_pos hclosed]
    obtain ⟨facts, hfacts⟩ := hfacts hclosed.2.1
    have hrow : (scan.summary enc.toCodec source).rowFacts = some facts := hfacts
    simp only [hrow, recoveryManifest, hfacts]
    refine SamePlan.bind fun manifest _ => SamePlan.bind fun intent hintent => ?_
    rw [RecoveryPlan.create_of_planned path path none (by simp) (by simp) hintent]
    exact ⟨rfl, rfl, .none, .none⟩
  · rw [if_neg (fun h => hclosed ⟨h.1, h.2.2, h.2.1⟩), if_neg hclosed]
    refine SamePlan.bind fun quarantinePath _ => SamePlan.bind fun intent hintent => ?_
    rw [RecoveryPlan.create_of_planned path quarantinePath (some source) (by simp) (by simp) hintent]
    exact ⟨rfl, rfl, .none, .some ⟨by simp, rfl, rfl⟩⟩

/-! ## Agreement -/

/-- A streaming scan says what the whole-file scan says, and the valid prefix of both is the
longest run of valid frames. -/
structure StreamingRecoveryScan.Agrees (codec : Codec) (identity : SourcePathIdentity)
    (source : Bytes) (s : StreamingRecoveryScan) (w : RecoveryFrameScan) : Prop where
  frameCount : s.frameCount = w.frames.length
  prefixSize : s.validPrefixSizeBytes = w.validPrefixSizeBytes
  rowFacts : s.rowFacts = (({} : RowFactsBuilder).extend w.rows).freeze
  suffixSize : s.invalidSuffixSizeBytes = w.invalidSuffixSizeBytes
  sourceDigest : s.sourceSizeBytes = source.length ∧ s.sourceSha256 = codec.sha256 source
  prefixDigest : s.validPrefixSha256 = codec.sha256 (source.take w.validPrefixSizeBytes)
  suffixDigest : s.invalidSuffixSha256 =
    if source.drop w.validPrefixSizeBytes = [] then none
    else some (codec.sha256 (source.drop w.validPrefixSizeBytes))
  sizes : s.validPrefixSizeBytes = (source.take w.validPrefixSizeBytes).length ∧
    s.invalidSuffixSizeBytes = (source.drop w.validPrefixSizeBytes).length ∧
    source.take w.validPrefixSizeBytes ++ source.drop w.validPrefixSizeBytes = source
  valid : ∃ seen, ValidFrames codec identity source w.frames w.validPrefixSizeBytes seen
  longest : ∀ frames offset seen, ValidFrames codec identity source frames offset seen →
    frames <+: w.frames ∧ offset ≤ w.validPrefixSizeBytes

/-- Two scanners end the same way: with scans that agree or with the same error. -/
def SameScan (codec : Codec) (identity : SourcePathIdentity) (source : Bytes) :
    Except Err StreamingRecoveryScan → Except Err RecoveryFrameScan → Prop
  | .ok s, .ok w => s.Agrees codec identity source w
  | .error e, .error e' => e = e'
  | _, _ => False

/-- The summary of a whole-file scan agrees with it. -/
theorem summary_agrees {codec : Codec} {identity : SourcePathIdentity} {source : Bytes}
    {path : String} {scan : RecoveryFrameScan} (hpath : parseSourcePath path = .ok identity)
    (hscan : scanRecoveryFrames codec source path = .ok scan) :
    (scan.summary codec source).Agrees codec identity source scan := by
  obtain ⟨hle, hsuffix, -, -⟩ := scan_facts hscan
  obtain ⟨hvalid, hlongest⟩ := scanRecoveryFrames_longest hpath hscan
  have hdrop : (source.drop scan.validPrefixSizeBytes).length = scan.invalidSuffixSizeBytes := by
    rw [List.length_drop, hsuffix]
  refine ⟨rfl, rfl, rfl, rfl, ⟨rfl, rfl⟩, rfl, ?_, ⟨?_, hdrop.symm, ?_⟩, hvalid, hlongest⟩
  · simp only [RecoveryFrameScan.summary, ← hdrop, List.length_eq_zero_iff]
  · rw [List.length_take]
    exact (Nat.min_eq_left hle).symm
  · exact List.take_append_drop _ _

/-- **Streaming recovery agrees with whole-file recovery**, for every source, every way of cutting
it into chunks and every path. -/
theorem streaming_agrees (enc : Encoders) (chunks : List Bytes) (path transactionId : String)
    (createdAtNs nextPartSequence : Nat) :
    (∀ identity, parseSourcePath path = .ok identity →
      SameScan enc.toCodec identity chunks.flatten
        (scanRecoveryChunks enc.toCodec chunks path)
        (scanRecoveryFrames enc.toCodec chunks.flatten path)) ∧
    SamePlan enc chunks.flatten
      (do
        let scan ← scanRecoveryChunks enc.toCodec chunks path
        planStreamingRecoverySource enc path scan transactionId createdAtNs nextPartSequence)
      (planRecoverySource enc path chunks.flatten transactionId createdAtNs nextPartSequence) := by
  rw [scanRecoveryChunks_eq]
  constructor
  · intro identity hpath
    cases hscan : scanRecoveryFrames enc.toCodec chunks.flatten path with
    | error e => exact rfl
    | ok scan => exact summary_agrees hpath hscan
  · cases hscan : scanRecoveryFrames enc.toCodec chunks.flatten path with
    | error e =>
      rw [planRecoverySource, hscan]
      exact rfl
    | ok scan => exact planStreamingRecoverySource_eq createdAtNs nextPartSequence hscan

end CryptoCollector.Storage.Recovery
