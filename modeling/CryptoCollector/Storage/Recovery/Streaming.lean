import CryptoCollector.Storage.Recovery.Scan

/-!
# The two scanners agree

Both scanners take frames off the source with `Lib.Decoder.takeFrames`. The whole-file scanner
does so directly (`scanLoop_eq`); for the streaming scanner `Reached` says what its variables are
after any number of chunks.

* `scanRecoveryChunks_eq` : the streaming scan of any cut of a source is the summary of its
  whole-file scan.
* `scanRecoveryFrames_longest` : the valid prefix is the longest run of valid frames.
-/

namespace CryptoCollector.Storage.Recovery

open Lib

/-- The frames taken so far: their bytes and their rows. -/
structure Taken where
  frames : List (Bytes × List RawEnvelope) := []
  seen : Seen := {}

namespace Taken

/-- The bytes of the frames taken. -/
def bytes (c : Taken) : Bytes := c.frames.flatMap (·.1)

/-- The rows of the frames taken. -/
def rows (c : Taken) : List RawEnvelope := c.frames.flatMap (·.2)

/-- One more frame. -/
def push (c : Taken) (frame : Bytes) (rows : List RawEnvelope) (seen : Seen) : Taken :=
  ⟨c.frames ++ [(frame, rows)], seen⟩

@[simp] theorem bytes_push (c : Taken) (frame : Bytes) (rows : List RawEnvelope) (seen : Seen) :
    (c.push frame rows seen).bytes = c.bytes ++ frame := by
  simp [push, bytes]

@[simp] theorem rows_push (c : Taken) (frame : Bytes) (rows : List RawEnvelope) (seen : Seen) :
    (c.push frame rows seen).rows = c.rows ++ rows := by
  simp [push, Taken.rows]

@[simp] theorem seen_push (c : Taken) (frame : Bytes) (rows : List RawEnvelope) (seen : Seen) :
    (c.push frame rows seen).seen = seen := rfl

@[simp] theorem length_push (c : Taken) (frame : Bytes) (rows : List RawEnvelope) (seen : Seen) :
    (c.push frame rows seen).frames.length = c.frames.length + 1 := by
  simp [push]

/-- The frames taken with their offsets, from `offset` on. -/
def locate (offset : Nat) : List (Bytes × List RawEnvelope) → List ValidatedRecoveryFrame
  | [] => []
  | (frame, rows) :: fs =>
    ⟨offset, offset + frame.length, rows⟩ :: locate (offset + frame.length) fs

theorem locate_append (offset : Nat) (fs gs : List (Bytes × List RawEnvelope)) :
    locate offset (fs ++ gs) =
      locate offset fs ++ locate (offset + (fs.flatMap (·.1)).length) gs := by
  induction fs generalizing offset with
  | nil => rfl
  | cons f fs ih => simp [locate, ih, Nat.add_assoc]

@[simp] theorem length_locate (offset : Nat) (fs : List (Bytes × List RawEnvelope)) :
    (locate offset fs).length = fs.length := by
  induction fs generalizing offset with
  | nil => rfl
  | cons f fs ih => simp [locate, ih]

theorem flatMap_locate (offset : Nat) (fs : List (Bytes × List RawEnvelope)) :
    (locate offset fs).flatMap (·.envelopes) = fs.flatMap (·.2) := by
  induction fs generalizing offset with
  | nil => rfl
  | cons f fs ih => simp [locate, ih]

theorem foldlM_nextStart_locate (offset : Nat) (fs : List (Bytes × List RawEnvelope)) :
    (locate offset fs).foldlM RecoveryFrameScan.nextStart offset =
      .ok (offset + (fs.flatMap (·.1)).length) := by
  induction fs generalizing offset with
  | nil => rfl
  | cons f fs ih =>
    obtain ⟨frame, rows⟩ := f
    have hnext : RecoveryFrameScan.nextStart offset ⟨offset, offset + frame.length, rows⟩ =
        .ok (offset + frame.length) := by
      simp [RecoveryFrameScan.nextStart]
    rw [locate, List.foldlM_cons, hnext]
    have := ih (offset + frame.length)
    simpa [Bind.bind, Except.bind, Nat.add_assoc] using this

/-- The variables of the whole-file loop once the frames are taken. -/
def toFrameLoop (c : Taken) : FrameLoop := ⟨c.bytes.length, locate 0 c.frames, c.seen⟩

theorem toFrameLoop_push (c : Taken) (frame : Bytes) (rows : List RawEnvelope) (seen : Seen) :
    (c.push frame rows seen).toFrameLoop =
      ⟨c.bytes.length + frame.length,
        (toFrameLoop c).frames ++ [⟨c.bytes.length, c.bytes.length + frame.length, rows⟩], seen⟩ := by
  unfold toFrameLoop
  rw [bytes_push, List.length_append]
  simp [push, locate_append, locate, bytes]

end Taken

variable {codec : Codec} {identity : SourcePathIdentity}

/-- Take a frame whose rows are valid. -/
def accept (codec : Codec) (identity : SourcePathIdentity) (c : Taken) (frame plain : Bytes) :
    Except Err (Option Taken) :=
  match frameRows codec identity c.seen frame plain with
  | .error e => .error e
  | .ok none => .ok none
  | .ok (some (rows, seen)) => .ok (some (c.push frame rows seen))

theorem length_mapM_ok {α β : Type} {f : α → Except Err β} {xs : List α} {ys : List β}
    (h : xs.mapM f = .ok ys) : ys.length = xs.length := by
  induction xs generalizing ys with
  | nil =>
    cases h
    rfl
  | cons x xs ih =>
    rw [List.mapM_cons] at h
    cases hx : f x with
    | error e => simp [hx, Bind.bind, Except.bind] at h
    | ok y =>
      cases hxs : xs.mapM f with
      | error e => simp [hx, hxs, Bind.bind, Except.bind] at h
      | ok zs =>
        simp only [hx, hxs, Bind.bind, Except.bind, pure, Except.pure, Except.ok.injEq] at h
        subst h
        simp [ih hxs]

/-- A valid frame has a row. -/
theorem rows_ne_nil {plain : Bytes} {seen seen' : Seen} {rows : List RawEnvelope}
    (h : decodeValidFrameRows codec plain identity seen = .ok (rows, seen')) : rows ≠ [] := by
  unfold decodeValidFrameRows at h
  split_ifs at h with hplain hlines
  cases hrows : ((plain.splitOn 10).dropLast.mapM
      fun line => decodeEnvelopeJsonl codec.decodeObject (line ++ [10])) with
  | error e => simp [hrows, Bind.bind, Except.bind] at h
  | ok envelopes =>
    cases hseen : envelopes.foldlM (checkRow identity) seen with
    | error e => simp [hrows, hseen, Bind.bind, Except.bind] at h
    | ok seen₁ =>
      simp only [hrows, hseen, Bind.bind, Except.bind, pure, Except.pure, Except.ok.injEq,
        Prod.mk.injEq] at h
      obtain ⟨rfl, rfl⟩ := h
      intro hnil
      -- with no complete line the text is its own last line, which is empty
      have hone : (plain.splitOn 10).dropLast = [] := by
        apply List.eq_nil_of_length_eq_zero
        rw [← length_mapM_ok hrows, hnil, List.length_nil]
      have hlast : (plain.splitOn 10).getLast? = some [] := by
        by_contra hne
        exact hlines (.inl hne)
      have hsplit : plain.splitOn 10 = [[]] := by
        have hdrop := List.dropLast_append_getLast? [] hlast
        rw [hone] at hdrop
        exact hdrop.symm
      have hplain' : [10].intercalate (plain.splitOn 10) = plain := List.intercalate_splitOn 10
      rw [hsplit] at hplain'
      exact hplain (.inl hplain'.symm)

theorem frameRows_ne_nil {seen seen' : Seen} {frame plain : Bytes} {rows : List RawEnvelope}
    (h : frameRows codec identity seen frame plain = .ok (some (rows, seen'))) : rows ≠ [] := by
  unfold frameRows at h
  split at h
  · cases h
  · split_ifs at h
    · cases h
    · split at h
      · rename_i hrows
        obtain rfl : _ = (rows, seen') := by simpa using h
        exact rows_ne_nil hrows
      · split_ifs at h
        cases h

/-- Take all valid frames at the start of a source. -/
abbrev takeValid (codec : Codec) (identity : SourcePathIdentity) (c : Taken) (source : Bytes) :
    Except Err (Taken × Bytes) :=
  codec.decoder.takeFrames (accept codec identity) c source

/-- What becomes of a complete frame. -/
theorem takeValid_finished {c : Taken} {source frame unused plain : Bytes}
    (hfeed : codec.decoder.feed codec.decoder.start source = .finished plain unused)
    (hframe : source.take (source.length - unused.length) = frame) :
    takeValid codec identity c source =
      match frameRows codec identity c.seen frame plain with
      | .error e => .error e
      | .ok none => .ok (c, source)
      | .ok (some (rows, seen)) => takeValid codec identity (c.push frame rows seen) unused := by
  rw [takeValid, Decoder.takeFrames_finished hfeed, hframe, accept]
  cases frameRows codec identity c.seen frame plain with
  | error e => rfl
  | ok answer => cases answer <;> rfl

/-- One step of taking valid frames. -/
abbrev TakeStep (codec : Codec) (identity : SourcePathIdentity) (now next : Taken × Bytes) : Prop :=
  Decoder.Step codec.decoder (accept codec identity) now next

/-- What a step takes. -/
theorem TakeStep.cases {now next : Taken × Bytes} (h : TakeStep codec identity now next) :
    ∃ plain rows seen,
      codec.decoder.feed codec.decoder.start now.2 = .finished plain next.2 ∧
      frameRows codec identity now.1.seen (now.2.take (now.2.length - next.2.length)) plain =
        .ok (some (rows, seen)) ∧
      next.1 = now.1.push (now.2.take (now.2.length - next.2.length)) rows seen := by
  obtain ⟨plain, hfeed, haccept⟩ := h
  unfold accept at haccept
  split at haccept
  · cases haccept
  · cases haccept
  · rename_i rows seen hrows
    simp only [Except.ok.injEq, Option.some.injEq] at haccept
    exact ⟨plain, rows, seen, hfeed, hrows, haccept.symm⟩

/-! ## The whole-file scanner -/

/-- The loop of the whole-file scanner takes the valid frames. -/
theorem scanLoop_eq (c : Taken) (rest : Bytes) :
    scanLoop codec identity (c.bytes ++ rest) c.toFrameLoop =
      (takeValid codec identity c rest).map fun r => r.1.toFrameLoop := by
  induction hn : rest.length using Nat.strongRecOn generalizing c rest with
  | _ n ih =>
    subst hn
    have hdrop : (c.bytes ++ rest).drop c.toFrameLoop.offset = rest := by
      simp [Taken.toFrameLoop]
    have hoffset : c.toFrameLoop.offset < (c.bytes ++ rest).length ↔ rest ≠ [] := by
      rw [List.length_append, ← List.length_pos_iff]
      simp [Taken.toFrameLoop]
    rw [scanLoop]
    by_cases hrest : rest = []
    · rw [if_neg (fun h => hoffset.1 h hrest), hrest, takeValid, Decoder.takeFrames_nil]
      rfl
    rw [if_pos (hoffset.2 hrest)]
    simp only [hdrop]
    cases hfeed : codec.decoder.feed codec.decoder.start rest with
    | failed => simp [takeValid, Decoder.takeFrames_failed hfeed, Except.map]
    | more out s => simp [takeValid, Decoder.takeFrames_more hfeed, Except.map]
    | finished plain unused =>
      have hlt := codec.decoder.unused_length_lt hfeed
      have hsplit := codec.decoder.take_append_unused hfeed
      rw [takeValid_finished hfeed rfl]
      simp only [show ¬ rest.length - unused.length ≤ 0 by omega, dite_false]
      have hseen : c.toFrameLoop.seen = c.seen := rfl
      rw [hseen]
      cases hrows : frameRows codec identity c.seen
          (rest.take (rest.length - unused.length)) plain with
      | error e => rfl
      | ok answer =>
        cases answer with
        | none => rfl
        | some found =>
          obtain ⟨rows, seen⟩ := found
          have hne := frameRows_ne_nil hrows
          have hcreate : ValidatedRecoveryFrame.create c.toFrameLoop.offset
              (c.toFrameLoop.offset + (rest.length - unused.length)) rows =
              .ok ⟨c.bytes.length, c.bytes.length + (rest.length - unused.length), rows⟩ := by
            rw [ValidatedRecoveryFrame.create, if_neg (by omega), if_neg (by simpa using hne)]
            rfl
          simp only [hcreate]
          have hpush := c.toFrameLoop_push (rest.take (rest.length - unused.length)) rows seen
          rw [List.length_take, Nat.min_eq_left (by omega)] at hpush
          have hbytes : c.bytes ++ rest =
              (c.push (rest.take (rest.length - unused.length)) rows seen).bytes ++ unused := by
            rw [Taken.bytes_push, List.append_assoc, hsplit]
          have := ih _ hlt (c.push (rest.take (rest.length - unused.length)) rows seen) unused rfl
          rw [← hbytes, hpush] at this
          exact this

/-- The scan that the frames taken stand for. -/
def Taken.toScan (c : Taken) (source : Bytes) : RecoveryFrameScan :=
  ⟨source.length, c.bytes.length, locate 0 c.frames⟩

/-- The bytes of the frames taken and the rest are the source. -/
theorem bytes_append_of_takeValid {c c' : Taken} {source rest : Bytes}
    (h : takeValid codec identity c source = .ok (c', rest)) :
    c'.bytes ++ rest = c.bytes ++ source := by
  refine Decoder.takeFrames_induction (P := fun c₁ rest₁ => c₁.bytes ++ rest₁ = c.bytes ++ source)
    rfl ?_ h
  intro now next hstep ih
  obtain ⟨plain, rows, seen, hfeed, -, hnext⟩ := TakeStep.cases hstep
  have hsplit := codec.decoder.take_append_unused hfeed
  rw [← ih, hnext, Taken.bytes_push, List.append_assoc, hsplit]

theorem scanRecoveryFrames_eq (source : Bytes) (path : String) :
    scanRecoveryFrames codec source path = (do
      let identity ← parseSourcePath path
      let r ← takeValid codec identity {} source
      return r.1.toScan source) := by
  unfold scanRecoveryFrames
  cases parseSourcePath path with
  | error e => rfl
  | ok identity =>
    have hloop := @scanLoop_eq codec identity {} source
    have hstart : ({} : Taken).toFrameLoop = {} := rfl
    have hnil : ({} : Taken).bytes ++ source = source := rfl
    rw [hstart, hnil] at hloop
    simp only [Bind.bind, Except.bind, hloop]
    cases htake : takeValid codec identity {} source with
    | error e => rfl
    | ok r =>
      obtain ⟨c, rest⟩ := r
      have hbytes := bytes_append_of_takeValid htake
      have hlen : c.bytes.length ≤ source.length := by
        have := congrArg List.length hbytes
        rw [hnil, List.length_append] at this
        omega
      have hstarts := Taken.foldlM_nextStart_locate 0 c.frames
      rw [Nat.zero_add] at hstarts
      simp only [Except.map, Taken.toFrameLoop, RecoveryFrameScan.create, hstarts]
      rw [if_neg (by omega), if_neg (by simp [Taken.bytes])]
      rfl

/-! ## The streaming scanner -/

/-- The variables that count the frames taken. -/
structure Counts (st : ChunkLoop codec) (c : Taken) : Prop where
  prefixDigest : st.prefixDigest = c.bytes
  prefixSize : st.prefixSize = c.bytes.length
  frameCount : st.frameCount = c.frames.length
  rowFacts : st.rowFacts = ({} : RowFactsBuilder).extend c.rows
  seen : st.seen = c.seen

theorem Counts.push {st : ChunkLoop codec} {c : Taken} (h : Counts st c) (frame : Bytes)
    (rows : List RawEnvelope) (seen : Seen) (decompressor : codec.decoder.State) :
    Counts
      { st with
        prefixDigest := st.prefixDigest ++ frame
        prefixSize := st.prefixSize + frame.length
        frameCount := st.frameCount + 1
        rowFacts := st.rowFacts.extend rows
        seen
        compressed := []
        plain := []
        decompressor } (c.push frame rows seen) where
  prefixDigest := by simp [h.prefixDigest]
  prefixSize := by simp [h.prefixSize]
  frameCount := by simp [h.frameCount]
  rowFacts := by simp [h.rowFacts, RowFactsBuilder.extend_append]
  seen := rfl

/-- The scanner has met no invalid frame: it holds the start of a frame. -/
structure Live (st : ChunkLoop codec) : Prop where
  valid : st.invalid = false
  suffixDigest : st.suffixDigest = []
  suffixSize : st.suffixSize = 0
  frame : codec.decoder.Open st.compressed st.plain st.decompressor

/-- The scanner has met an invalid frame: all bytes from it on are the suffix. -/
structure Dead (st : ChunkLoop codec) (suffix : Bytes) : Prop where
  invalid : st.invalid = true
  suffixDigest : st.suffixDigest = suffix
  suffixSize : st.suffixSize = suffix.length
  suffix_ne : suffix ≠ []

/-- Where the scanner is once it has read `tail` after it had taken the frames of `c`. The last
conjunct of each case says what taking frames gives whatever bytes follow. -/
inductive Reached (identity : SourcePathIdentity) (c : Taken) (tail : Bytes)
    (st : ChunkLoop codec) : Prop
  | live (c' : Taken) (counts : Counts st c') (live : Live st)
      (takes : ∀ rest, takeValid codec identity c (tail ++ rest) =
        takeValid codec identity c' (st.compressed ++ rest))
  | dead (c' : Taken) (suffix : Bytes) (counts : Counts st c') (dead : Dead st suffix)
      (takes : ∀ rest, takeValid codec identity c (tail ++ rest) = .ok (c', suffix ++ rest))

/-- What reading `tail` comes to: an error that taking frames meets too, or a scanner that has
reached the end of `tail` and has counted the same source. -/
def Reads (identity : SourcePathIdentity) (c : Taken) (tail : Bytes) (st : ChunkLoop codec) :
    Except Err (ChunkLoop codec) → Prop
  | .error e => ∀ rest, takeValid codec identity c (tail ++ rest) = .error e
  | .ok st' => Reached identity c tail st' ∧
      st'.sourceDigest = st.sourceDigest ∧ st'.sourceSize = st.sourceSize

/-- Reading on after more frames were taken. -/
theorem Reads.after {c c' : Taken} {tail tail' : Bytes} {st st' : ChunkLoop codec}
    {result : Except Err (ChunkLoop codec)} (h : Reads identity c' tail' st' result)
    (hdigest : st'.sourceDigest = st.sourceDigest) (hsize : st'.sourceSize = st.sourceSize)
    (htake : ∀ rest, takeValid codec identity c (tail ++ rest) =
      takeValid codec identity c' (tail' ++ rest)) : Reads identity c tail st result := by
  cases result with
  | error e => exact fun rest => (htake rest).trans (h rest)
  | ok st₁ =>
    obtain ⟨hreached, hdigest₁, hsize₁⟩ := h
    refine ⟨?_, hdigest₁.trans hdigest, hsize₁.trans hsize⟩
    cases hreached with
    | live d hc hl ht => exact .live d hc hl fun rest => (htake rest).trans (ht rest)
    | dead d suffix hc hd ht => exact .dead d suffix hc hd fun rest => (htake rest).trans (ht rest)

/-- What one chunk does to a live scanner. -/
theorem drainChunk_reads {c : Taken} {st : ChunkLoop codec} {pending : Bytes}
    (hcounts : Counts st c) (hlive : Live st) :
    Reads identity c (st.compressed ++ pending) st (drainChunk codec identity pending st) := by
  induction hn : pending.length using Nat.strongRecOn generalizing c st pending with
  | _ n ih =>
    subst hn
    cases pending with
    | nil =>
      rw [drainChunk]
      exact ⟨.live c hcounts hlive (by simp), rfl, rfl⟩
    | cons b bs =>
      have hne : b :: bs ≠ [] := List.cons_ne_nil b bs
      rw [drainChunk]
      split
      · rename_i hfeed
        have hfail := hlive.frame.failed hne hfeed
        refine ⟨.dead c (st.compressed ++ (b :: bs)) ?_ ?_ ?_, rfl, rfl⟩
        · exact ⟨hcounts.1, hcounts.2, hcounts.3, hcounts.4, hcounts.5⟩
        · exact ⟨rfl, by simp [hlive.suffixDigest], by simp [hlive.suffixSize], by simp⟩
        · intro rest
          exact Decoder.takeFrames_failed (hfail rest)
      · rename_i decoded decompressor hfeed
        refine ⟨.live c ?_ ?_ ?_, rfl, rfl⟩
        · exact ⟨hcounts.1, hcounts.2, hcounts.3, hcounts.4, hcounts.5⟩
        · exact ⟨hlive.valid, hlive.suffixDigest, hlive.suffixSize,
            hlive.frame.more hne hfeed⟩
        · intro rest
          rfl
      · rename_i decoded unused hfeed
        have hlt := codec.decoder.unused_length_lt hfeed
        have hfin := hlive.frame.finished hne hfeed
        have hsplit := codec.decoder.take_append_unused hfeed
        -- the bytes of the frame do not depend on what follows it
        have hframe : ∀ rest, (st.compressed ++ (b :: bs) ++ rest).take
            ((st.compressed ++ (b :: bs) ++ rest).length - (unused ++ rest).length) =
            st.compressed ++ (b :: bs).take ((b :: bs).length - unused.length) := by
          intro rest
          have hwhole : st.compressed ++ (b :: bs) ++ rest =
              (st.compressed ++ (b :: bs).take ((b :: bs).length - unused.length)) ++
                (unused ++ rest) := by
            rw [← List.append_assoc, List.append_assoc st.compressed _ unused, hsplit]
          rw [hwhole, List.length_append, Nat.add_sub_cancel, List.take_left]
        have htake := fun rest =>
          @takeValid_finished codec identity c _ _ _ _ (hfin rest) (hframe rest)
        dsimp only
        cases hrows : frameRows codec identity st.seen
            (st.compressed ++ (b :: bs).take ((b :: bs).length - unused.length))
            (st.plain ++ decoded) with
        | error e =>
          intro rest
          rw [htake rest, ← hcounts.seen, hrows]
        | ok answer =>
          cases answer with
          | none =>
            refine ⟨.dead c (st.compressed ++ (b :: bs)) ?_ ?_ ?_, rfl, rfl⟩
            · exact ⟨hcounts.1, hcounts.2, hcounts.3, hcounts.4, hcounts.5⟩
            · refine ⟨rfl, ?_, ?_, by simp⟩
              · simp only [hlive.suffixDigest, List.nil_append]
                rw [List.append_assoc, hsplit]
              · have hlen := congrArg List.length hsplit
                simp only [List.length_append, List.length_cons] at hlen ⊢
                rw [hlive.suffixSize]
                omega
            · intro rest
              rw [htake rest, ← hcounts.seen, hrows]
          | some found =>
            obtain ⟨rows, seen⟩ := found
            have hpush := hcounts.push
              (st.compressed ++ (b :: bs).take ((b :: bs).length - unused.length)) rows seen
              codec.decoder.start
            have hnext := ih _ hlt hpush
              ⟨hlive.valid, hlive.suffixDigest, hlive.suffixSize, .fresh⟩ rfl
            have htake' : ∀ rest,
                takeValid codec identity c (st.compressed ++ (b :: bs) ++ rest) =
                takeValid codec identity (c.push
                  (st.compressed ++ (b :: bs).take ((b :: bs).length - unused.length)) rows seen)
                  (unused ++ rest) := by
              intro rest
              rw [htake rest, ← hcounts.seen, hrows]
            exact hnext.after rfl rfl htake'

/-- The state of the scanner after the chunks of `source`. -/
structure Scanned (identity : SourcePathIdentity) (source : Bytes) (st : ChunkLoop codec) :
    Prop where
  sourceDigest : st.sourceDigest = source
  sourceSize : st.sourceSize = source.length
  reached : Reached identity {} source st

/-- One more chunk. -/
theorem scanChunk_scanned {source chunk : Bytes} {st : ChunkLoop codec}
    (h : Scanned identity source st) :
    match scanChunk codec identity st chunk with
    | .error e => ∀ rest, takeValid codec identity {} (source ++ chunk ++ rest) = .error e
    | .ok st' => Scanned identity (source ++ chunk) st' := by
  unfold scanChunk
  by_cases hchunk : chunk = []
  · simpa [hchunk] using h
  rw [if_neg hchunk]
  cases h.reached with
  | dead c suffix hcounts hdead htake =>
    simp only [hdead.invalid, if_true]
    refine ⟨by simp [h.sourceDigest], by simp [h.sourceSize], ?_⟩
    refine .dead c (suffix ++ chunk) ⟨hcounts.1, hcounts.2, hcounts.3, hcounts.4, hcounts.5⟩ ?_ ?_
    · exact ⟨rfl, by simp [hdead.suffixDigest], by simp [hdead.suffixSize], by simp [hchunk]⟩
    · intro rest
      rw [List.append_assoc, htake (chunk ++ rest), List.append_assoc]
  | live c hcounts hlive htake =>
    simp only [hlive.valid, Bool.false_eq_true, if_false]
    have hread := @drainChunk_reads codec identity c
      { st with
        sourceDigest := st.sourceDigest ++ chunk
        sourceSize := st.sourceSize + chunk.length
        invalid := false } chunk
      ⟨hcounts.1, hcounts.2, hcounts.3, hcounts.4, hcounts.5⟩ ⟨rfl, hlive.2, hlive.3, hlive.4⟩
    have htake' : ∀ rest, takeValid codec identity {} (source ++ chunk ++ rest) =
        takeValid codec identity c (st.compressed ++ chunk ++ rest) := by
      intro rest
      rw [List.append_assoc, htake (chunk ++ rest), List.append_assoc]
    replace hread := hread.after rfl rfl htake'
    split
    · rename_i e herr
      rw [herr] at hread
      exact hread
    · rename_i st' hok
      rw [hok] at hread
      obtain ⟨hreached, hdigest, hsize⟩ := hread
      refine ⟨?_, ?_, hreached⟩
      · rw [hdigest, h.sourceDigest]
      · rw [hsize, h.sourceSize, List.length_append]

/-- All chunks. -/
theorem foldlM_scanChunk {chunks : List Bytes} {source : Bytes} {st : ChunkLoop codec}
    (h : Scanned identity source st) :
    match chunks.foldlM (scanChunk codec identity) st with
    | .error e => takeValid codec identity {} (source ++ chunks.flatten) = .error e
    | .ok st' => Scanned identity (source ++ chunks.flatten) st' := by
  induction chunks generalizing source st with
  | nil => simpa [pure, Except.pure] using h
  | cons chunk chunks ih =>
    have hstep := @scanChunk_scanned codec identity source chunk st h
    rw [List.foldlM_cons]
    cases hscan : scanChunk codec identity st chunk with
    | error e =>
      rw [hscan] at hstep
      simpa [Bind.bind, Except.bind] using hstep chunks.flatten
    | ok st' =>
      rw [hscan] at hstep
      simpa [Bind.bind, Except.bind] using ih hstep

/-- What the streaming scan of a source has to say, read off its whole-file scan. -/
def RecoveryFrameScan.summary (codec : Codec) (scan : RecoveryFrameScan) (source : Bytes) :
    StreamingRecoveryScan where
  sourceSizeBytes := source.length
  sourceSha256 := codec.sha256 source
  validPrefixSizeBytes := scan.validPrefixSizeBytes
  validPrefixSha256 := codec.sha256 (source.take scan.validPrefixSizeBytes)
  invalidSuffixSizeBytes := scan.invalidSuffixSizeBytes
  invalidSuffixSha256 :=
    if scan.invalidSuffixSizeBytes = 0 then none
    else some (codec.sha256 (source.drop scan.validPrefixSizeBytes))
  frameCount := scan.frames.length
  rowFacts := (({} : RowFactsBuilder).extend scan.rows).freeze

/-- The valid prefix and the rest of the source, once the frames are taken. -/
theorem summary_toScan {c : Taken} {source rest : Bytes} (h : c.bytes ++ rest = source) :
    (c.toScan source).summary codec source =
      { sourceSizeBytes := source.length
        sourceSha256 := codec.sha256 source
        validPrefixSizeBytes := c.bytes.length
        validPrefixSha256 := codec.sha256 c.bytes
        invalidSuffixSizeBytes := rest.length
        invalidSuffixSha256 := if rest.length = 0 then none else some (codec.sha256 rest)
        frameCount := c.frames.length
        rowFacts := (({} : RowFactsBuilder).extend c.rows).freeze } := by
  subst h
  have hsize : (c.toScan (c.bytes ++ rest)).invalidSuffixSizeBytes = rest.length := by
    simp [RecoveryFrameScan.invalidSuffixSizeBytes, Taken.toScan]
  have hrows : (c.toScan (c.bytes ++ rest)).rows = c.rows := Taken.flatMap_locate 0 c.frames
  unfold RecoveryFrameScan.summary
  rw [hsize, hrows]
  simp [Taken.toScan]

/-- The scan that the streaming scanner ends with. -/
theorem finish_eq {source rest : Bytes} {c : Taken} {st : ChunkLoop codec}
    (h : Scanned identity source st)
    (htake : takeValid codec identity {} source = .ok (c, rest)) :
    st.finish = (c.toScan source).summary codec source := by
  have hsource : c.bytes ++ rest = source := bytes_append_of_takeValid htake
  rw [summary_toScan hsource]
  unfold ChunkLoop.finish
  cases h.reached with
  | dead c' suffix hcounts hdead ht =>
    have heq := ht []
    rw [List.append_nil, htake, List.append_nil] at heq
    obtain ⟨rfl, rfl⟩ : c = c' ∧ rest = suffix := by simpa using heq
    simp only [hdead.invalid, Bool.not_true, Bool.false_and, Bool.false_eq_true, if_false]
    rw [h.sourceSize, h.sourceDigest, hcounts.prefixSize, hcounts.prefixDigest, hdead.suffixSize,
      hdead.suffixDigest, hcounts.frameCount, hcounts.rowFacts]
  | live c' hcounts hlive ht =>
    have heq := ht []
    rw [List.append_nil, htake, List.append_nil, takeValid,
      Decoder.takeFrames_open hlive.frame] at heq
    obtain ⟨rfl, rfl⟩ : c = c' ∧ rest = st.compressed := by simpa using heq
    have hdigest : (if (!st.invalid && !st.compressed.isEmpty) = true then
        st.suffixDigest ++ st.compressed else st.suffixDigest) = st.compressed := by
      by_cases hc : st.compressed = []
      · simp [hlive.valid, hlive.suffixDigest, hc]
      · simp [hlive.valid, hlive.suffixDigest, hc]
    have hsize : (if (!st.invalid && !st.compressed.isEmpty) = true then
        st.suffixSize + st.compressed.length else st.suffixSize) = st.compressed.length := by
      by_cases hc : st.compressed = []
      · simp [hlive.valid, hlive.suffixSize, hc]
      · simp [hlive.valid, hlive.suffixSize, hc]
    dsimp only
    rw [hdigest, hsize, h.sourceSize, h.sourceDigest, hcounts.prefixSize, hcounts.prefixDigest,
      hcounts.frameCount, hcounts.rowFacts]

/-- Each frame taken has a row. -/
theorem rows_of_takeValid {c c' : Taken} {source rest : Bytes}
    (h : takeValid codec identity c source = .ok (c', rest)) (hc : c.frames ≠ [] → c.rows ≠ []) :
    c'.frames ≠ [] → c'.rows ≠ [] := by
  refine Decoder.takeFrames_induction (P := fun c₁ _ => c₁.frames ≠ [] → c₁.rows ≠ []) hc ?_ h
  intro now next hstep _ _
  obtain ⟨plain, rows, seen, -, hrows, hnext⟩ := TakeStep.cases hstep
  rw [hnext, Taken.rows_push]
  exact List.append_ne_nil_of_right_ne_nil _ (frameRows_ne_nil hrows)

/-- The checks of the streaming scan pass. -/
theorem validate_summary {source rest : Bytes} {c : Taken}
    (htake : takeValid codec identity {} source = .ok (c, rest)) :
    ((c.toScan source).summary codec source).validate = none := by
  have hsource : c.bytes ++ rest = source := bytes_append_of_takeValid htake
  have hrows := rows_of_takeValid htake (by simp)
  rw [summary_toScan hsource, StreamingRecoveryScan.validate]
  have hsizes : source.length = c.bytes.length + rest.length := by
    rw [← hsource, List.length_append]
  have hfacts : (c.frames.length == 0) =
      (({} : RowFactsBuilder).extend c.rows).freeze.isNone := by
    by_cases hframes : c.frames = []
    · have : c.rows = [] := by simp [Taken.rows, hframes]
      simp [hframes, this, RowFactsBuilder.extend, RowFactsBuilder.freeze]
    · have hsome := RowFactsBuilder.freeze_extend_isSome (hrows hframes)
      obtain ⟨facts, hfacts⟩ := Option.isSome_iff_exists.1 hsome
      simp [hframes, hfacts]
  rw [← hfacts]
  by_cases hrest : rest.length = 0 <;> simp [refuseIf, hsizes, hrest]

/-- **The streaming scan of a source, cut in any way, is the summary of its whole-file scan.** -/
theorem scanRecoveryChunks_eq (codec : Codec) (chunks : List Bytes) (path : String) :
    scanRecoveryChunks codec chunks path =
      (scanRecoveryFrames codec chunks.flatten path).map
        fun scan => scan.summary codec chunks.flatten := by
  rw [scanRecoveryFrames_eq, scanRecoveryChunks]
  cases parseSourcePath path with
  | error e => rfl
  | ok identity =>
    have hstart : @Scanned codec identity [] { decompressor := codec.decoder.start } :=
      ⟨rfl, rfl, .live {} ⟨rfl, rfl, rfl, rfl, rfl⟩ ⟨rfl, rfl, rfl, .fresh⟩ fun rest => rfl⟩
    have hscan := @foldlM_scanChunk codec identity chunks _ _ hstart
    rw [List.nil_append] at hscan
    simp only [Bind.bind, Except.bind]
    split at hscan
    · rename_i e herr
      rw [herr, hscan]
      rfl
    · rename_i st hok
      rw [hok]
      cases htake : takeValid codec identity {} chunks.flatten with
      | error e =>
        -- the scanner has reached the end, so taking frames met no error
        exfalso
        cases hscan.reached with
        | dead c suffix _ _ ht =>
          have := ht []
          rw [List.append_nil, htake] at this
          cases this
        | live c _ hlive ht =>
          have := ht []
          rw [List.append_nil, htake, List.append_nil, takeValid,
            Decoder.takeFrames_open hlive.frame] at this
          cases this
      | ok r =>
        obtain ⟨c, rest⟩ := r
        dsimp only
        rw [finish_eq hscan htake, validate_summary htake]
        rfl

/-! ## The longest valid prefix -/

/-- A frame of `source` at an offset that validates after the rows seen so far. -/
structure FrameAt (codec : Codec) (identity : SourcePathIdentity) (source : Bytes) (seen : Seen)
    (frame : ValidatedRecoveryFrame) (seen' : Seen) : Prop where
  decodes : ∃ plain, codec.decoder.feed codec.decoder.start (source.drop frame.startOffset) =
      .finished plain (source.drop frame.endOffset) ∧
    frameRows codec identity seen
      ((source.drop frame.startOffset).take (frame.endOffset - frame.startOffset)) plain =
        .ok (some (frame.envelopes, seen'))
  bounded : frame.endOffset ≤ source.length

/-- Consecutive frames from offset 0 that all validate, the end of the last and what was seen. -/
inductive ValidFrames (codec : Codec) (identity : SourcePathIdentity) (source : Bytes) :
    List ValidatedRecoveryFrame → Nat → Seen → Prop
  | nil : ValidFrames codec identity source [] 0 {}
  | snoc {frames offset seen frame seen'} (frames_valid : ValidFrames codec identity source
      frames offset seen) (starts : frame.startOffset = offset)
      (valid : FrameAt codec identity source seen frame seen') :
      ValidFrames codec identity source (frames ++ [frame]) frame.endOffset seen'

/-- The steps of taking frames from the start of a source find valid frames. -/
theorem validFrames_of_steps {source : Bytes} {next : Taken × Bytes}
    (h : Relation.ReflTransGen (TakeStep codec identity) ({}, source) next) :
    ValidFrames codec identity source (Taken.locate 0 next.1.frames) next.1.bytes.length
        next.1.seen ∧ source = next.1.bytes ++ next.2 := by
  induction h with
  | refl => exact ⟨.nil, rfl⟩
  | @tail b d _ hstep ih =>
    obtain ⟨hvalid, hsource⟩ := ih
    obtain ⟨plain, rows, seen, hfeed, hrows, hnext⟩ := TakeStep.cases hstep
    have hsplit := codec.decoder.take_append_unused hfeed
    have hlt := codec.decoder.unused_length_lt hfeed
    have hsource' : source = d.1.bytes ++ d.2 := by
      rw [hnext, Taken.bytes_push, List.append_assoc, hsplit, hsource]
    refine ⟨?_, hsource'⟩
    have hlength : d.1.bytes.length = b.1.bytes.length + (b.2.length - d.2.length) := by
      rw [hnext, Taken.bytes_push, List.length_append, List.length_take]
      omega
    have hframes : Taken.locate 0 d.1.frames = Taken.locate 0 b.1.frames ++
        [⟨b.1.bytes.length, d.1.bytes.length, rows⟩] := by
      have hpush := congrArg FrameLoop.frames (b.1.toFrameLoop_push
        (b.2.take (b.2.length - d.2.length)) rows seen)
      rw [← hnext, List.length_take, Nat.min_eq_left (by omega), ← hlength] at hpush
      exact hpush
    have hb : source.drop b.1.bytes.length = b.2 := by rw [hsource, List.drop_left]
    have hd : source.drop d.1.bytes.length = d.2 := by rw [hsource', List.drop_left]
    have hseen : d.1.seen = seen := by rw [hnext, Taken.seen_push]
    rw [hframes, hseen]
    refine .snoc hvalid rfl ⟨⟨plain, ?_, ?_⟩, ?_⟩
    · rw [hb, hd, hfeed]
    · rw [hb, hlength, Nat.add_sub_cancel_left, hrows]
    · rw [hsource', List.length_append]
      exact Nat.le_add_right _ _

/-- Valid frames are found by steps of taking frames. -/
theorem steps_of_validFrames {source : Bytes} {frames : List ValidatedRecoveryFrame}
    {offset : Nat} {seen : Seen} (h : ValidFrames codec identity source frames offset seen) :
    ∃ c : Taken, Taken.locate 0 c.frames = frames ∧ c.seen = seen ∧ c.bytes.length = offset ∧
      Relation.ReflTransGen (TakeStep codec identity) ({}, source) (c, source.drop offset) := by
  induction h with
  | nil => exact ⟨{}, rfl, rfl, rfl, by simpa using Relation.ReflTransGen.refl⟩
  | @snoc frames offset seen frame seen' _ starts valid ih =>
    obtain ⟨c, hframes, hseen, hbytes, hsteps⟩ := ih
    subst starts
    obtain ⟨⟨plain, hfeed, hrows⟩, hbound⟩ := valid
    have hlt := codec.decoder.unused_length_lt hfeed
    rw [List.length_drop, List.length_drop] at hlt
    have hsize : (source.drop frame.startOffset).length - (source.drop frame.endOffset).length =
        frame.endOffset - frame.startOffset := by
      rw [List.length_drop, List.length_drop]
      omega
    have htaken : ((source.drop frame.startOffset).take
        (frame.endOffset - frame.startOffset)).length = frame.endOffset - frame.startOffset := by
      rw [List.length_take, List.length_drop]
      omega
    refine ⟨c.push ((source.drop frame.startOffset).take
      (frame.endOffset - frame.startOffset)) frame.envelopes seen', ?_, rfl, ?_, hsteps.tail ?_⟩
    · have hpush := congrArg FrameLoop.frames (c.toFrameLoop_push ((source.drop
        frame.startOffset).take (frame.endOffset - frame.startOffset)) frame.envelopes seen')
      rw [htaken, hbytes] at hpush
      have hend : frame.startOffset + (frame.endOffset - frame.startOffset) = frame.endOffset := by
        omega
      rw [hend] at hpush
      exact hpush.trans (by rw [← hframes]; rfl)
    · rw [Taken.bytes_push, List.length_append, htaken, hbytes]
      omega
    · refine ⟨plain, hfeed, ?_⟩
      dsimp only
      rw [hsize, accept, hseen, hrows]

/-- **The valid prefix is the longest run of valid frames**: its frames are valid, and every run
of valid frames from offset 0 is a part of it. -/
theorem scanRecoveryFrames_longest {codec : Codec} {source : Bytes} {path : String}
    {identity : SourcePathIdentity} {scan : RecoveryFrameScan}
    (hpath : parseSourcePath path = .ok identity)
    (hscan : scanRecoveryFrames codec source path = .ok scan) :
    (∃ seen, ValidFrames codec identity source scan.frames scan.validPrefixSizeBytes seen) ∧
      ∀ frames offset seen, ValidFrames codec identity source frames offset seen →
        frames <+: scan.frames ∧ offset ≤ scan.validPrefixSizeBytes := by
  rw [scanRecoveryFrames_eq, hpath] at hscan
  simp only [Bind.bind, Except.bind] at hscan
  cases htake : takeValid codec identity {} source with
  | error e => simp [htake] at hscan
  | ok r =>
    obtain ⟨c, rest⟩ := r
    obtain rfl : c.toScan source = scan := by simpa [htake, pure, Except.pure] using hscan
    refine ⟨⟨c.seen, (validFrames_of_steps (Decoder.steps_of_takeFrames htake).1).1⟩, ?_⟩
    intro frames offset seen hvalid
    obtain ⟨c', rfl, -, rfl, hsteps⟩ := steps_of_validFrames hvalid
    -- from the end of the run the rest of the frames are taken
    have hrest := Decoder.takeFrames_of_steps hsteps
    rw [show codec.decoder.takeFrames (accept codec identity) {} source = .ok (c, rest) from
      htake] at hrest
    have hinit : c'.frames <+: c.frames := by
      refine Decoder.takeFrames_induction (P := fun c₁ _ => c'.frames <+: c₁.frames)
        (List.prefix_refl _) ?_ hrest.symm
      intro now next hstep ih
      obtain ⟨plain, rows, seen, -, -, hnext⟩ := TakeStep.cases hstep
      rw [hnext]
      exact ih.trans (List.prefix_append _ _)
    obtain ⟨fs, hfs⟩ := hinit
    constructor
    · rw [Taken.toScan, ← hfs, Taken.locate_append]
      exact List.prefix_append _ _
    · rw [Taken.toScan, Taken.bytes, Taken.bytes, ← hfs, List.flatMap_append, List.length_append]
      exact Nat.le_add_right _ _

end CryptoCollector.Storage.Recovery
