import CryptoCollector.Lib.Frames
import CryptoCollector.Storage.Manifest.Model

/-!
# Scanning a recovery source

`storage/recovery.py: scan_recovery_frames, _scan_recovery_chunks` and what they use. The first
reads a whole file, the second the chunks of a file as they come.

* `_RecoveryRowFactsBuilder` : `RowFactsBuilder`, `RecoveryRowFacts`
* `_parse_source_path` : `parseSourcePath`
* `_decode_valid_frame_rows` : `decodeValidFrameRows`
* `scan_recovery_frames` : `scanRecoveryFrames`, its loop `scanLoop`
* `_scan_recovery_chunks` : `scanRecoveryChunks`, its loops `scanChunk` and `drainChunk`

The zstandard package, the JSON decoder and SHA-256 are the parameters of a `Codec`. A hash object
is the byte string it was updated with.
-/

namespace CryptoCollector.Storage.Recovery

open Lib

/-- `zstandard.get_frame_parameters`, the facts that recovery reads. -/
structure FrameParameters where
  hasChecksum : Bool
  contentSize : Nat
  deriving DecidableEq

/-- The functions of the codec packages. -/
structure Codec where
  /-- `zstandard.ZstdDecompressor().decompressobj()`. -/
  decoder : Decoder UInt8 UInt8
  /-- `zstandard.get_frame_parameters`, with none for a `ZstdError`. -/
  frameParameters : Bytes → Option FrameParameters
  /-- The envelope of a JSON object: `decode_json` and the validation of its fields. -/
  decodeObject : Bytes → Except Err RawEnvelope
  sha256 : Bytes → Sha256

/-! ## Facts of the recovered rows -/

/-- `RecoveryRowFacts`. -/
structure RecoveryRowFacts where
  exchange : Exchange
  market : Option Market
  instrumentKey : Option String
  logicalStream : String
  wireSymbols : List String
  recordCount : Nat
  firstReceivedAtNs : Nat
  lastReceivedAtNs : Nat
  firstEventTimeNs : Option Nat
  lastEventTimeNs : Option Nat
  workerInstanceId : String
  connectionGenerations : List Nat
  writerSequenceFirst : Nat
  writerSequenceLast : Nat
  configSha256 : String
  egressIds : List String
  requestedIntervalsNs : List Nat
  effectiveIntervalsNs : List Nat
  deriving DecidableEq

/-- `_RecoveryRowFactsBuilder`. -/
structure RowFactsBuilder where
  rows : Nat := 0
  first : Option RawEnvelope := none
  last : Option RawEnvelope := none
  firstEventTimeNs : Option Nat := none
  lastEventTimeNs : Option Nat := none
  wireSymbols : Finset String := ∅
  connectionGenerations : Finset Nat := ∅
  egressIds : Finset String := ∅
  requestedIntervalsNs : Finset Nat := ∅
  effectiveIntervalsNs : Finset Nat := ∅

namespace RowFactsBuilder

/-- One turn of the loop of `extend`. The assertion on the effective interval holds, since the
metadata of an envelope pairs the intervals. -/
def add (b : RowFactsBuilder) (e : RawEnvelope) : RowFactsBuilder where
  rows := b.rows + 1
  first := b.first <|> some e
  last := some e
  firstEventTimeNs := b.firstEventTimeNs <|> e.eventTimeNs
  lastEventTimeNs := e.eventTimeNs <|> b.lastEventTimeNs
  wireSymbols := collect e.wireSymbol b.wireSymbols
  connectionGenerations := collect e.connectionGeneration b.connectionGenerations
  egressIds := collect e.egressId b.egressIds
  requestedIntervalsNs := collect e.requestedIntervalNs b.requestedIntervalsNs
  effectiveIntervalsNs := collect e.effectiveIntervalNs b.effectiveIntervalsNs

/-- `extend`. -/
def extend (b : RowFactsBuilder) (envelopes : List RawEnvelope) : RowFactsBuilder :=
  envelopes.foldl add b

/-- `freeze`. -/
def freeze (b : RowFactsBuilder) : Option RecoveryRowFacts :=
  match b.first, b.last with
  | some first, some last =>
    some
      { exchange := first.exchange
        market := first.market
        instrumentKey := first.instrumentKey
        logicalStream := first.logicalStream
        wireSymbols := b.wireSymbols.sort (· ≤ ·)
        recordCount := b.rows
        firstReceivedAtNs := first.receivedAtNs
        lastReceivedAtNs := last.receivedAtNs
        firstEventTimeNs := b.firstEventTimeNs
        lastEventTimeNs := b.lastEventTimeNs
        workerInstanceId := first.workerInstanceId
        connectionGenerations := b.connectionGenerations.sort (· ≤ ·)
        writerSequenceFirst := first.writerSequence
        writerSequenceLast := last.writerSequence
        configSha256 := first.configSha256
        egressIds := b.egressIds.sort (· ≤ ·)
        requestedIntervalsNs := b.requestedIntervalsNs.sort (· ≤ ·)
        effectiveIntervalsNs := b.effectiveIntervalsNs.sort (· ≤ ·) }
  | _, _ => none

theorem extend_append (b : RowFactsBuilder) (xs ys : List RawEnvelope) :
    b.extend (xs ++ ys) = (b.extend xs).extend ys := by
  simp [extend]

theorem extend_ends {b : RowFactsBuilder} (hb : b.first.isSome ∧ b.last.isSome)
    (envelopes : List RawEnvelope) :
    (b.extend envelopes).first.isSome ∧ (b.extend envelopes).last.isSome := by
  induction envelopes generalizing b with
  | nil => exact hb
  | cons e es ih =>
    refine ih ⟨?_, rfl⟩
    obtain ⟨first, hfirst⟩ := Option.isSome_iff_exists.1 hb.1
    simp [add, hfirst]

/-- The facts are there as soon as there is a row. -/
theorem freeze_extend_isSome {envelopes : List RawEnvelope} (h : envelopes ≠ []) :
    (({} : RowFactsBuilder).extend envelopes).freeze.isSome := by
  obtain ⟨e, es, rfl⟩ := List.exists_cons_of_ne_nil h
  obtain ⟨hfirst, hlast⟩ :=
    extend_ends (b := add {} e) ⟨by simp [add], by simp [add]⟩ es
  obtain ⟨first, hf⟩ := Option.isSome_iff_exists.1 hfirst
  obtain ⟨last, hl⟩ := Option.isSome_iff_exists.1 hlast
  have heq : ({} : RowFactsBuilder).extend (e :: es) = (add {} e).extend es := rfl
  rw [heq, freeze, hf, hl]
  rfl

end RowFactsBuilder

/-! ## The identity of a source path -/

/-- `_SourcePathIdentity`. -/
structure SourcePathIdentity where
  exchange : Exchange
  key : LogicalKey
  storageHour : List String
  deriving DecidableEq

/-- `_normalized_relative_path`. -/
def normalizedRelativePath (value fieldName : String) : Except Err String :=
  if isNormalizedRelativePath value then .ok value
  else .error (.valueError (fieldName ++ " must be normalized"))

/-- The scope of a path below `raw/<exchange>`: the logical key, the hour and the file name. -/
def parseScope (parts : List String) : Except Err (LogicalKey × List String × String) :=
  match parts with
  | [_, _, "_control", y, m, d, h, name] => .ok (.control, [y, m, d, h], name)
  | [_, _, market, identity, stream, y, m, d, h, name] => do
    let some market := Market.ofValue market
      | throw (.valueError "source path has an invalid market")
    if identity = "_market" then
      if marketScopedStreams.contains stream then
        return (⟨some market, none, stream⟩, [y, m, d, h], name)
      else throw (.valueError "source path market scope does not match stream")
    else
      let key ← decodeInstrumentKey identity
      if (← encodeInstrumentKey key) ≠ identity then
        throw (.valueError "source path instrument encoding is not canonical")
      if marketScopedStreams.contains stream then
        throw (.valueError "market-scoped stream cannot use an instrument path")
      return (⟨some market, some key, stream⟩, [y, m, d, h], name)
  | _ => .error (.valueError "source path does not match a raw storage scope")

/-- The hour that four directory names stand for. A name that `int` reads but that is not in
decimal digits is not canonical either. -/
def parseHour (names : List String) : Except Err UtcHour :=
  match names with
  | [y, m, d, h] =>
    if (y ++ m ++ d ++ h).toList.all Char.isDigit && !names.contains "" then
      let value (s : String) := Nat.ofDigitChars 10 s.toList 0
      let hour : UtcHour := ⟨value y, value m, value d, value h⟩
      if !hour.isValid then .error (.valueError "source path storage hour is invalid")
      else if hour.names ≠ names then
        .error (.valueError "source path storage hour is not canonical")
      else .ok hour
    else .error (.valueError "source path storage hour is invalid")
  | _ => .error (.valueError "source path storage hour is invalid")

/-- `_parse_source_path`. -/
def parseSourcePath (sourceRelativePath : String) : Except Err SourcePathIdentity := do
  let source ← normalizedRelativePath sourceRelativePath "source_relative_path"
  let parts := segments source
  if parts.head? ≠ some "raw" then throw (.valueError "source path must be below raw")
  let some exchange := (parts[1]?).bind Exchange.ofValue
    | throw (.valueError "source path has an invalid exchange")
  let (key, storageHour, filename) ← parseScope parts
  let hour ← parseHour storageHour
  let some (start, _) := parsePartName (removeSuffix filename ".partial")
    | throw (.valueError "source path does not name a canonical raw part")
  if (start : Int) ≠ hour.timestamp * 1000000000 then
    throw (.valueError "source part start does not match its storage hour")
  return ⟨exchange, key, hour.names⟩

example : parseSourcePath
    "raw/okx/spot/BTC-USDT/trades/2024/02/29/00/part-1709164800000000000-3.jsonl.zst.partial" =
    .ok ⟨.okx, ⟨some .spot, some "BTC-USDT", "trades"⟩, ["2024", "02", "29", "00"]⟩ := by
  decide +kernel

/-! ## The rows of a frame -/

/-- The worker, the configuration and the last sequence of the rows accepted so far. -/
structure Seen where
  workerInstanceId : Option String := none
  configSha256 : Option String := none
  writerSequence : Option Nat := none
  deriving DecidableEq

/-- One turn of the loop of `_decode_valid_frame_rows`. -/
def checkRow (identity : SourcePathIdentity) (seen : Seen) (e : RawEnvelope) : Except Err Seen :=
  if (e.exchange, e.key) ≠ (identity.exchange, identity.key) then
    .error (.valueError "recovery row does not match source path identity")
  else
    match utcStorageHour e.receivedAtNs with
    | .error _ => .error (.valueError "recovery row received time is invalid")
    | .ok receivedHour =>
      if receivedHour ≠ identity.storageHour then
        .error (.valueError "recovery row crosses the source storage hour")
      else if seen.workerInstanceId.isSome ∧ (some e.workerInstanceId ≠ seen.workerInstanceId ∨
          some e.configSha256 ≠ seen.configSha256) then
        .error (.valueError "recovery part mixes worker or config identities")
      else if seen.writerSequence.any (e.writerSequence ≤ ·) then
        .error (.valueError "recovery writer sequences must be strictly increasing")
      else
        .ok ⟨some e.workerInstanceId, some e.configSha256, some e.writerSequence⟩

variable (codec : Codec)

/-- `_decode_valid_frame_rows`. A frame has a row, so the last three values are set. -/
def decodeValidFrameRows (plain : Bytes) (identity : SourcePathIdentity) (seen : Seen) :
    Except Err (List RawEnvelope × Seen) :=
  if plain = [] ∨ plain.getLast? ≠ some 10 then
    .error (.valueError "recovery frame is not complete JSONL")
  else if (plain.splitOn 10).getLast? ≠ some [] ∨ [] ∈ (plain.splitOn 10).dropLast then
    .error (.valueError "recovery frame contains an empty or trailing row")
  else do
    let envelopes ← (plain.splitOn 10).dropLast.mapM fun line =>
      decodeEnvelopeJsonl codec.decodeObject (line ++ [10])
    let seen ← envelopes.foldlM (checkRow identity) seen
    return (envelopes, seen)

/-- The errors that the scanners catch: `TypeError`, `ValueError` and `ZstdError`. -/
def isCaught : Err → Bool
  | .valueError _ => true
  | _ => false

/-- What both scanners do with a complete frame before they take it: the checks of its codec facts
and of its rows. There is no result for a frame they stop at; an error they do not catch goes
through. -/
def frameRows (identity : SourcePathIdentity) (seen : Seen) (frameBytes plain : Bytes) :
    Except Err (Option (List RawEnvelope × Seen)) :=
  match codec.frameParameters frameBytes with
  | none => .ok none
  | some parameters =>
    if !parameters.hasChecksum ∨ parameters.contentSize ≠ plain.length then .ok none
    else
      match decodeValidFrameRows codec plain identity seen with
      | .ok rows => .ok (some rows)
      | .error e => if isCaught e then .ok none else .error e

/-! ## Scanning a whole file -/

/-- `ValidatedRecoveryFrame`. -/
structure ValidatedRecoveryFrame where
  startOffset : Nat
  endOffset : Nat
  envelopes : List RawEnvelope

/-- The constructor of `ValidatedRecoveryFrame` with its `__post_init__`. -/
def ValidatedRecoveryFrame.create (startOffset endOffset : Nat) (envelopes : List RawEnvelope) :
    Except Err ValidatedRecoveryFrame :=
  if endOffset ≤ startOffset then .error (.valueError "recovery frame offsets are invalid")
  else if envelopes.isEmpty then
    .error (.valueError "recovery frame must contain validated envelopes")
  else .ok ⟨startOffset, endOffset, envelopes⟩

/-- `RecoveryFrameScan`. -/
structure RecoveryFrameScan where
  sourceSizeBytes : Nat
  validPrefixSizeBytes : Nat
  frames : List ValidatedRecoveryFrame

namespace RecoveryFrameScan

/-- The loop of `__post_init__` over the frames: where the next frame has to start. -/
def nextStart (expectedStart : Nat) (frame : ValidatedRecoveryFrame) : Except Err Nat :=
  if frame.startOffset ≠ expectedStart then
    .error (.valueError "recovery frames must form one contiguous prefix")
  else .ok frame.endOffset

/-- The constructor with its `__post_init__`. -/
def create (sourceSizeBytes validPrefixSizeBytes : Nat) (frames : List ValidatedRecoveryFrame) :
    Except Err RecoveryFrameScan :=
  if sourceSizeBytes < validPrefixSizeBytes then
    .error (.valueError "recovery frame scan sizes are invalid")
  else
    match frames.foldlM nextStart 0 with
    | .error e => .error e
    | .ok expectedStart =>
      if expectedStart ≠ validPrefixSizeBytes then
        .error (.valueError "recovery frame prefix size is inconsistent")
      else .ok ⟨sourceSizeBytes, validPrefixSizeBytes, frames⟩

/-- `invalid_suffix_size_bytes`. -/
def invalidSuffixSizeBytes (s : RecoveryFrameScan) : Nat :=
  s.sourceSizeBytes - s.validPrefixSizeBytes

/-- The rows of the valid prefix, in order. -/
def rows (s : RecoveryFrameScan) : List RawEnvelope := s.frames.flatMap (·.envelopes)

end RecoveryFrameScan

/-- The variables of the loop of `scan_recovery_frames`. -/
structure FrameLoop where
  offset : Nat := 0
  frames : List ValidatedRecoveryFrame := []
  seen : Seen := {}

/-- The loop of `scan_recovery_frames`. -/
def scanLoop (identity : SourcePathIdentity) (source : Bytes) (st : FrameLoop) :
    Except Err FrameLoop :=
  if st.offset < source.length then
    let remaining := source.drop st.offset
    match codec.decoder.feed codec.decoder.start remaining with
    | .failed => .ok st
    | .more _ _ => .ok st
    | .finished plain unused =>
      let consumed := remaining.length - unused.length
      if _hconsumed : consumed ≤ 0 then .ok st
      else
        match frameRows codec identity st.seen (remaining.take consumed) plain with
        | .error e => .error e
        | .ok none => .ok st
        | .ok (some (envelopes, seen)) =>
          match ValidatedRecoveryFrame.create st.offset (st.offset + consumed) envelopes with
          | .error e => .error e
          | .ok frame =>
            scanLoop identity source ⟨st.offset + consumed, st.frames ++ [frame], seen⟩
  else .ok st
termination_by source.length - st.offset
decreasing_by
  have hpos : 0 < remaining.length - unused.length := by omega
  rw [List.length_drop] at hpos
  simp only [List.length_drop]
  omega

/-- `scan_recovery_frames`. -/
def scanRecoveryFrames (source : Bytes) (sourceRelativePath : String) :
    Except Err RecoveryFrameScan := do
  let identity ← parseSourcePath sourceRelativePath
  let st ← scanLoop codec identity source {}
  RecoveryFrameScan.create source.length st.offset st.frames

/-! ## Scanning chunks -/

/-- `StreamingRecoveryScan`. -/
structure StreamingRecoveryScan where
  sourceSizeBytes : Nat
  sourceSha256 : Sha256
  validPrefixSizeBytes : Nat
  validPrefixSha256 : Sha256
  invalidSuffixSizeBytes : Nat
  invalidSuffixSha256 : Option Sha256
  frameCount : Nat
  rowFacts : Option RecoveryRowFacts
  deriving DecidableEq

/-- The `__post_init__` of `StreamingRecoveryScan`. -/
def StreamingRecoveryScan.validate (s : StreamingRecoveryScan) : Option Err :=
  refuseIf (s.sourceSizeBytes ≠ s.validPrefixSizeBytes + s.invalidSuffixSizeBytes)
    "streaming recovery scan byte counts are inconsistent" <|>
  refuseIf ((s.invalidSuffixSizeBytes == 0) != s.invalidSuffixSha256.isNone)
    "streaming recovery suffix hash is inconsistent" <|>
  refuseIf ((s.frameCount == 0) != s.rowFacts.isNone)
    "streaming recovery row facts are inconsistent"

/-- The variables of `_scan_recovery_chunks`. -/
structure ChunkLoop where
  sourceDigest : Bytes := []
  prefixDigest : Bytes := []
  suffixDigest : Bytes := []
  sourceSize : Nat := 0
  prefixSize : Nat := 0
  suffixSize : Nat := 0
  frameCount : Nat := 0
  invalid : Bool := false
  compressed : Bytes := []
  plain : Bytes := []
  decompressor : codec.decoder.State
  seen : Seen := {}
  rowFacts : RowFactsBuilder := {}

/-- The loop `while pending` over one chunk. -/
def drainChunk (identity : SourcePathIdentity) (pending : Bytes) (st : ChunkLoop codec) :
    Except Err (ChunkLoop codec) :=
  match pending with
  | [] => .ok st
  | b :: bs =>
    match _h : codec.decoder.feed st.decompressor (b :: bs) with
    | .failed =>
      let compressed := st.compressed ++ (b :: bs)
      .ok { st with
        suffixDigest := st.suffixDigest ++ compressed
        suffixSize := st.suffixSize + compressed.length
        compressed := []
        plain := []
        invalid := true }
    | .more decoded decompressor =>
      .ok { st with
        plain := st.plain ++ decoded
        decompressor
        compressed := st.compressed ++ (b :: bs) }
    | .finished decoded unused =>
      let plain := st.plain ++ decoded
      let consumed := (b :: bs).length - unused.length
      let frameBytes := st.compressed ++ (b :: bs).take consumed
      match frameRows codec identity st.seen frameBytes plain with
      | .error e => .error e
      | .ok none =>
        .ok { st with
          plain
          compressed := frameBytes
          suffixDigest := st.suffixDigest ++ frameBytes ++ unused
          suffixSize := st.suffixSize + (frameBytes.length + unused.length)
          invalid := true }
      | .ok (some (envelopes, seen)) =>
        drainChunk identity unused
          { st with
            prefixDigest := st.prefixDigest ++ frameBytes
            prefixSize := st.prefixSize + frameBytes.length
            frameCount := st.frameCount + 1
            rowFacts := st.rowFacts.extend envelopes
            seen
            compressed := []
            plain := []
            decompressor := codec.decoder.start }
termination_by pending.length
decreasing_by exact codec.decoder.unused_length_lt _h

/-- The body of the loop over the chunks. -/
def scanChunk (identity : SourcePathIdentity) (st : ChunkLoop codec) (chunk : Bytes) :
    Except Err (ChunkLoop codec) :=
  if chunk = [] then .ok st
  else
    let st := { st with
      sourceDigest := st.sourceDigest ++ chunk
      sourceSize := st.sourceSize + chunk.length }
    if st.invalid then
      .ok { st with
        suffixDigest := st.suffixDigest ++ chunk
        suffixSize := st.suffixSize + chunk.length }
    else drainChunk codec identity chunk st

/-- The end of `_scan_recovery_chunks`: a frame that the source ends in is part of the suffix. -/
def ChunkLoop.finish (st : ChunkLoop codec) : StreamingRecoveryScan :=
  let open' := !st.invalid && !st.compressed.isEmpty
  let suffixDigest := if open' then st.suffixDigest ++ st.compressed else st.suffixDigest
  let suffixSize := if open' then st.suffixSize + st.compressed.length else st.suffixSize
  { sourceSizeBytes := st.sourceSize
    sourceSha256 := codec.sha256 st.sourceDigest
    validPrefixSizeBytes := st.prefixSize
    validPrefixSha256 := codec.sha256 st.prefixDigest
    invalidSuffixSizeBytes := suffixSize
    invalidSuffixSha256 := if suffixSize = 0 then none else some (codec.sha256 suffixDigest)
    frameCount := st.frameCount
    rowFacts := st.rowFacts.freeze }

/-- `_scan_recovery_chunks`. -/
def scanRecoveryChunks (chunks : List Bytes) (sourceRelativePath : String) :
    Except Err StreamingRecoveryScan := do
  let identity ← parseSourcePath sourceRelativePath
  let st ← chunks.foldlM (scanChunk codec identity) { decompressor := codec.decoder.start }
  match st.finish.validate with
  | some e => throw e
  | none => return st.finish

end CryptoCollector.Storage.Recovery
