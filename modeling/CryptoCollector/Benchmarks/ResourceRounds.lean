import CryptoCollector.Benchmarks.Contracts
import CryptoCollector.Lib.Dict

/-!
# Resource rounds

`benchmarks/contracts.py: GateProcessKeyV1, GateProcessResourceSampleV1,
GateResourceSamplingRoundV1` with their validation, and the loop of `summarize_resources` in
`benchmarks/aggregation.py` over the rounds. What a scan of the loop knows about the rounds that it
has passed is `Scanned`.
-/

namespace CryptoCollector.Benchmarks

open Lib Storage

/-- `ProcessRole`. -/
inductive ProcessRole where
  | supervisor
  | exchangeWorker
  deriving DecidableEq

/-- `GateProcessKeyV1`: the triple of a role, an exchange and a worker, as in `_process_pairs`. -/
structure ProcessKey where
  role : ProcessRole
  exchange : Option Exchange
  workerInstanceId : Option String
  deriving DecidableEq

namespace ProcessKey

/-- Whether the role of a worker goes with its identity. -/
def canonicalWorker (k : ProcessKey) : Bool :=
  match k.exchange with
  | some exchange => k.workerInstanceId = some (workerInstanceIdOf exchange)
  | none => false

/-- The validation of `GateProcessKeyV1`. -/
def checks (k : ProcessKey) : Checks :=
  [(k.workerInstanceId ≠ some "", "String should have at least 1 character"),
    (k.role ≠ .supervisor || (k.exchange.isNone && k.workerInstanceId.isNone),
      "supervisor process key must be unscoped"),
    (k.role ≠ .exchangeWorker || k.canonicalWorker, "exchange worker process key is invalid")]

end ProcessKey

/-- `_canonical_process_pairs`. -/
def canonicalProcessPairs : List ProcessKey :=
  ⟨.supervisor, none, none⟩ :: canonicalExchanges.map fun exchange =>
    ⟨.exchangeWorker, some exchange, some (workerInstanceIdOf exchange)⟩

/-- `GateProcessResourceSampleV1`. -/
structure ProcessSample where
  roundIndex : Nat
  scheduledMonotonicNs : Nat
  requestStartedMonotonicNs : Nat
  requestCompletedMonotonicNs : Nat
  processKey : ProcessKey
  processId : Nat
  rssBytes : Nat
  openFdCount : Nat

/-- The validation of `GateProcessResourceSampleV1`. -/
def ProcessSample.checks (s : ProcessSample) : Checks :=
  s.processKey.checks ++
    ([(0 < s.processId, "Input should be greater than 0"),
      (s.processId ≤ maxSignedInt64, "Input should be less than or equal to 9223372036854775807"),
      (s.scheduledMonotonicNs ≤ s.requestStartedMonotonicNs &&
        s.requestStartedMonotonicNs ≤ s.requestCompletedMonotonicNs,
        "process sample request timing is invalid")] : Checks)

/-- `GateResourceSamplingRoundV1`. -/
structure ResourceRound where
  roundIndex : Nat
  scheduledMonotonicNs : Nat
  expectedProcessKeys : List ProcessKey
  samples : List ProcessSample

namespace ResourceRound

/-- The validation of `GateResourceSamplingRoundV1`. -/
def checks (r : ResourceRound) : Checks :=
  r.expectedProcessKeys.flatMap ProcessKey.checks ++ r.samples.flatMap ProcessSample.checks ++
    ([(r.expectedProcessKeys = canonicalProcessPairs,
        "resource round must declare six canonical processes"),
      (r.samples.map ProcessSample.processKey = r.expectedProcessKeys,
        "resource round must contain one ordered sample per process"),
      (r.samples.all fun s => s.roundIndex = r.roundIndex &&
        s.scheduledMonotonicNs = r.scheduledMonotonicNs,
        "process sample parent fields do not match their round"),
      ((r.samples.map ProcessSample.processId).Nodup, "resource round process IDs must be unique")] : Checks)

/-- The sum of the resident memory of the processes. -/
def totalRss (r : ResourceRound) : Nat := (r.samples.map ProcessSample.rssBytes).sum

/-- The sum of the open file descriptors of the processes. -/
def totalFds (r : ResourceRound) : Nat := (r.samples.map ProcessSample.openFdCount).sum

/-- The row of a round in the totals. -/
def totals (r : ResourceRound) : Nat × Nat × Nat :=
  (r.scheduledMonotonicNs, r.totalRss, r.totalFds)

end ResourceRound

/-- `_validate_expected_processes`. -/
def validateExpectedProcesses (expectedProcesses : List ProcessKey) :
    Except Err (List ProcessKey) := do
  if expectedProcesses ≠ canonicalProcessPairs then
    throw (.valueError "expected processes must be the six canonical processes")
  expectedProcesses.forM fun key => revalidate key.checks "expected process" "GateProcessKeyV1"
  pure expectedProcesses

/-! ## The samples of a round -/

/-- What the loop over the samples of a round changes. -/
structure SampleScan where
  stablePids : Dict ProcessKey Nat
  /-- `interval_start` and `interval_end`. -/
  interval : Option (Nat × Nat)

/-- The interval of the requests, with one more sample. -/
def widen (interval : Option (Nat × Nat)) (s : ProcessSample) : Nat × Nat :=
  match interval with
  | none => (s.requestStartedMonotonicNs, s.requestCompletedMonotonicNs)
  | some (start, finish) =>
    (min start s.requestStartedMonotonicNs, max finish s.requestCompletedMonotonicNs)

/-- One sample of a round. -/
def sampleStep (r : ResourceRound) (scan : SampleScan) (s : ProcessSample) :
    Except Err SampleScan := do
  if s.roundIndex ≠ r.roundIndex ∨ s.scheduledMonotonicNs ≠ r.scheduledMonotonicNs then
    throw (.valueError "resource sample parent round facts changed")
  if ¬ (r.scheduledMonotonicNs ≤ s.requestStartedMonotonicNs ∧
      s.requestStartedMonotonicNs ≤ s.requestCompletedMonotonicNs) then
    throw (.valueError "resource process request timing is invalid")
  -- `setdefault`
  let stablePids := if scan.stablePids.contains s.processKey then scan.stablePids
    else scan.stablePids.set s.processKey s.processId
  if stablePids.get? s.processKey ≠ some s.processId then
    throw (.valueError "resource process PID changed")
  revalidate s.checks "resource process sample" "GateProcessResourceSampleV1"
  pure ⟨stablePids, some (widen scan.interval s)⟩

/-- The first start and the last completion of some requests. -/
structure Spans (samples : List ProcessSample) (interval : Nat × Nat) : Prop where
  start_le : ∀ s ∈ samples, interval.1 ≤ s.requestStartedMonotonicNs
  start_mem : ∃ s ∈ samples, interval.1 = s.requestStartedMonotonicNs
  le_finish : ∀ s ∈ samples, s.requestCompletedMonotonicNs ≤ interval.2
  finish_mem : ∃ s ∈ samples, interval.2 = s.requestCompletedMonotonicNs

/-- What the scan of some samples of a round knows about them. -/
structure SamplesScanned (r : ResourceRound) (samples : List ProcessSample) (scan : SampleScan) :
    Prop where
  timing : ∀ s ∈ samples, r.scheduledMonotonicNs ≤ s.requestStartedMonotonicNs ∧
    s.requestStartedMonotonicNs ≤ s.requestCompletedMonotonicNs
  interval : (samples = [] ∧ scan.interval = none) ∨
    ∃ interval, scan.interval = some interval ∧ Spans samples interval

theorem spans_singleton (s : ProcessSample) : Spans [s] (widen none s) := by
  constructor <;> simp [widen]

theorem Spans.widen {samples : List ProcessSample} {interval : Nat × Nat}
    (h : Spans samples interval) (s : ProcessSample) :
    Spans (samples ++ [s]) (widen (some interval) s) := by
  obtain ⟨start, finish⟩ := interval
  obtain ⟨hstart, ⟨a, ha, hamin⟩, hfinish, ⟨b, hb, hbmax⟩⟩ := h
  dsimp only at hstart hamin hfinish hbmax
  constructor
  · intro t ht
    rcases List.mem_append.mp ht with ht | ht
    · exact (min_le_left _ _).trans (hstart t ht)
    · rw [List.mem_singleton.mp ht]
      exact min_le_right _ _
  · rcases min_choice start s.requestStartedMonotonicNs with hmin | hmin
    · exact ⟨a, List.mem_append_left _ ha, hmin.trans hamin⟩
    · exact ⟨s, List.mem_append_right _ List.mem_cons_self, hmin⟩
  · intro t ht
    rcases List.mem_append.mp ht with ht | ht
    · exact (hfinish t ht).trans (le_max_left _ _)
    · rw [List.mem_singleton.mp ht]
      exact le_max_right _ _
  · rcases max_choice finish s.requestCompletedMonotonicNs with hmax | hmax
    · exact ⟨b, List.mem_append_left _ hb, hmax.trans hbmax⟩
    · exact ⟨s, List.mem_append_right _ List.mem_cons_self, hmax⟩

/-- One more sample is scanned. -/
theorem samplesScanned_step {r : ResourceRound} {samples : List ProcessSample}
    {scan scan' : SampleScan} {s : ProcessSample} (hscan : SamplesScanned r samples scan)
    (h : sampleStep r scan s = .ok scan') : SamplesScanned r (samples ++ [s]) scan' := by
  unfold sampleStep at h
  rw [throw_bind_eq_ok] at h
  obtain ⟨-, h⟩ := h
  rw [throw_bind_eq_ok, not_not] at h
  obtain ⟨htiming, h⟩ := h
  dsimp only at h
  rw [throw_bind_eq_ok] at h
  obtain ⟨-, h⟩ := h
  obtain ⟨-, -, h⟩ := bind_eq_ok.mp h
  cases h
  constructor
  · intro t ht
    rcases List.mem_append.mp ht with ht | ht
    · exact hscan.timing t ht
    · rw [List.mem_singleton.mp ht]
      exact htiming
  · refine .inr ⟨_, rfl, ?_⟩
    rcases hscan.interval with ⟨rfl, hnone⟩ | ⟨interval, hsome, hspans⟩
    · rw [hnone]
      exact spans_singleton s
    · rw [hsome]
      exact hspans.widen s

theorem samplesScanned_foldlM {r : ResourceRound} {samples rest : List ProcessSample}
    {scan scan' : SampleScan} (hscan : SamplesScanned r samples scan)
    (h : rest.foldlM (sampleStep r) scan = .ok scan') :
    SamplesScanned r (samples ++ rest) scan' := by
  induction rest generalizing samples scan with
  | nil =>
    cases h
    rwa [List.append_nil]
  | cons s rest ih =>
    rw [List.foldlM_cons, bind_eq_ok] at h
    obtain ⟨next, hstep, h⟩ := h
    have := ih (samplesScanned_step hscan hstep) h
    rwa [List.append_assoc] at this

/-! ## The rounds -/

/-- What the loop over the rounds changes. -/
structure Scan where
  stablePids : Dict ProcessKey Nat := .empty
  totals : List (Nat × Nat × Nat) := []
  previousScheduled : Option Nat := none
  previousIntervalEnd : Option Nat := none
  firstRequest : Option Nat := none
  finalCompletion : Option Nat := none

/-- One round of the loop, after its samples. -/
def closeRound (requireNonoverlap : Bool) (scan : Scan) (r : ResourceRound)
    (samples : SampleScan) : Except Err Scan :=
  match samples.interval with
  | none => .error (.assertionError "")
  | some (start, finish) => do
    if requireNonoverlap ∧ ∃ finish ∈ scan.previousIntervalEnd, start < finish then
      throw (.valueError "resource sampling round intervals overlap")
    revalidate r.checks "resource round" "GateResourceSamplingRoundV1"
    pure
      { stablePids := samples.stablePids
        totals := scan.totals ++ [r.totals]
        previousScheduled := some r.scheduledMonotonicNs
        previousIntervalEnd := some finish
        firstRequest := some (scan.firstRequest.getD start)
        finalCompletion := some finish }

/-- One round of the loop of `summarize_resources`, with the index that the round must have. -/
def roundStep (processes : List ProcessKey) (requireNonoverlap : Bool) (scan : Scan)
    (indexed : ResourceRound × Nat) : Except Err Scan := do
  let r := indexed.1
  if r.roundIndex ≠ indexed.2 then
    throw (.valueError "resource round indices must be zero-based and consecutive")
  if ∃ previous ∈ scan.previousScheduled, r.scheduledMonotonicNs ≤ previous then
    throw (.valueError "resource round scheduled time must strictly increase")
  if r.expectedProcessKeys ≠ processes then
    throw (.valueError "resource round expected process keys changed")
  if r.samples.length ≠ processes.length then
    throw (.valueError "resource round has a missing or extra process sample")
  if r.samples.map ProcessSample.processKey ≠ processes then
    throw (.valueError "resource process samples are missing, duplicate, or replaced")
  if ¬ (r.samples.map ProcessSample.processId).Nodup then
    throw (.valueError "resource round contains duplicate process PIDs")
  let samples ← r.samples.foldlM (sampleStep r) ⟨scan.stablePids, none⟩
  closeRound requireNonoverlap scan r samples

/-- The loop of `summarize_resources`. -/
def scanRounds (processes : List ProcessKey) (requireNonoverlap : Bool)
    (rounds : List ResourceRound) : Except Err Scan :=
  rounds.zipIdx.foldlM (roundStep processes requireNonoverlap) {}

/-- What the scan of some rounds knows about them when their intervals may not overlap. -/
structure Scanned (rounds : List ResourceRound) (scan : Scan) : Prop where
  totals : scan.totals = rounds.map ResourceRound.totals
  increasing : rounds.Pairwise fun r r' => r.scheduledMonotonicNs < r'.scheduledMonotonicNs
  previous : ∀ r ∈ rounds, ∃ previous, scan.previousScheduled = some previous ∧
    r.scheduledMonotonicNs ≤ previous
  /-- The end of the last interval is the last completion. -/
  finish : scan.previousIntervalEnd = scan.finalCompletion
  first : rounds ≠ [] → scan.firstRequest.isSome
  first_le : ∀ first ∈ scan.firstRequest, ∃ final ∈ scan.finalCompletion, first ≤ final
  le_final : ∀ r ∈ rounds, ∃ final ∈ scan.finalCompletion, r.scheduledMonotonicNs ≤ final ∧
    ∀ s ∈ r.samples, s.requestCompletedMonotonicNs ≤ final
  final_mem : ∀ final ∈ scan.finalCompletion, ∃ r ∈ rounds, ∃ s ∈ r.samples,
    final = s.requestCompletedMonotonicNs

theorem scanned_nil : Scanned [] {} := by
  constructor <;> simp

/-- What a round of the loop has checked and computed. -/
theorem of_roundStep {processes : List ProcessKey} {scan scan' : Scan} {r : ResourceRound}
    {index : Nat} (h : roundStep processes true scan (r, index) = .ok scan') :
    ∃ start finish, Spans r.samples (start, finish) ∧ r.scheduledMonotonicNs ≤ start ∧
      start ≤ finish ∧ (∀ previous ∈ scan.previousScheduled, previous < r.scheduledMonotonicNs) ∧
      (∀ previous ∈ scan.previousIntervalEnd, previous ≤ start) ∧
      scan'.totals = scan.totals ++ [r.totals] ∧
      scan'.previousScheduled = some r.scheduledMonotonicNs ∧
      scan'.previousIntervalEnd = some finish ∧
      scan'.firstRequest = some (scan.firstRequest.getD start) ∧
      scan'.finalCompletion = some finish := by
  unfold roundStep at h
  dsimp only at h
  rw [throw_bind_eq_ok] at h
  obtain ⟨-, h⟩ := h
  rw [throw_bind_eq_ok] at h
  obtain ⟨hincreasing, h⟩ := h
  simp only [throw_bind_eq_ok, bind_eq_ok] at h
  obtain ⟨-, -, -, -, samples, hsamples, h⟩ := h
  have hscanned : SamplesScanned r ([] ++ r.samples) samples :=
    samplesScanned_foldlM ⟨by simp, .inl ⟨rfl, rfl⟩⟩ hsamples
  rw [List.nil_append] at hscanned
  unfold closeRound at h
  rcases hscanned.interval with ⟨-, hnone⟩ | ⟨⟨start, finish⟩, hsome, hspans⟩
  · rw [hnone] at h
    cases h
  rw [hsome] at h
  dsimp only at h
  rw [throw_bind_eq_ok] at h
  obtain ⟨hoverlap, h⟩ := h
  obtain ⟨-, -, h⟩ := bind_eq_ok.mp h
  cases h
  obtain ⟨a, ha, hstart⟩ := hspans.start_mem
  obtain ⟨hscheduled, hle⟩ := hscanned.timing a ha
  refine ⟨start, finish, hspans, ?_, ?_, ?_, ?_, rfl, rfl, rfl, rfl, rfl⟩
  · exact hscheduled.trans_eq hstart.symm
  · exact (hstart.trans_le hle).trans (hspans.le_finish a ha)
  · intro previous hprevious
    exact not_le.mp fun hge => hincreasing ⟨previous, hprevious, hge⟩
  · intro previous hprevious
    exact not_lt.mp fun hlt => hoverlap ⟨rfl, previous, hprevious, hlt⟩

/-- One more round is scanned. -/
theorem scanned_step {processes : List ProcessKey} {rounds : List ResourceRound}
    {scan scan' : Scan} {r : ResourceRound} {index : Nat} (hscan : Scanned rounds scan)
    (h : roundStep processes true scan (r, index) = .ok scan') :
    Scanned (rounds ++ [r]) scan' := by
  obtain ⟨start, finish, hspans, hscheduled, hle, hincreasing, hoverlap, htotals, hprevious, hend,
    hfirst, hfinal⟩ := of_roundStep h
  have hbefore : ∀ q ∈ rounds, q.scheduledMonotonicNs < r.scheduledMonotonicNs := by
    intro q hq
    obtain ⟨previous, hsome, hqle⟩ := hscan.previous q hq
    exact hqle.trans_lt (hincreasing previous hsome)
  constructor
  · rw [htotals, hscan.totals, List.map_append, List.map_singleton]
  · rw [List.pairwise_append]
    refine ⟨hscan.increasing, List.pairwise_singleton _ _, fun q hq t ht => ?_⟩
    rw [List.mem_singleton.mp ht]
    exact hbefore q hq
  · intro q hq
    refine ⟨_, hprevious, ?_⟩
    rcases List.mem_append.mp hq with hq | hq
    · exact (hbefore q hq).le
    · rw [List.mem_singleton.mp hq]
  · rw [hend, hfinal]
  · intro _
    rw [hfirst]
    rfl
  · intro first hmem
    refine ⟨finish, hfinal, ?_⟩
    rw [hfirst, Option.mem_some_iff] at hmem
    subst hmem
    cases hsome : scan.firstRequest with
    | none => exact hle
    | some first =>
      obtain ⟨final, hlast, hfirstle⟩ := hscan.first_le first hsome
      exact hfirstle.trans ((hoverlap final (hscan.finish.trans hlast)).trans hle)
  · intro q hq
    refine ⟨finish, hfinal, ?_⟩
    rcases List.mem_append.mp hq with hq | hq
    · obtain ⟨final, hlast, hsched, hcompleted⟩ := hscan.le_final q hq
      have hfinish : final ≤ finish := (hoverlap final (hscan.finish.trans hlast)).trans hle
      exact ⟨hsched.trans hfinish, fun s hs => (hcompleted s hs).trans hfinish⟩
    · rw [List.mem_singleton.mp hq]
      exact ⟨hscheduled.trans hle, hspans.le_finish⟩
  · intro final hmem
    rw [hfinal, Option.mem_some_iff] at hmem
    obtain ⟨s, hs, heq⟩ := hspans.finish_mem
    exact ⟨r, by simp, s, hs, hmem ▸ heq⟩

theorem scanned_foldlM {processes : List ProcessKey} {rounds : List ResourceRound}
    {rest : List (ResourceRound × Nat)} {scan scan' : Scan} (hscan : Scanned rounds scan)
    (h : rest.foldlM (roundStep processes true) scan = .ok scan') :
    Scanned (rounds ++ rest.map Prod.fst) scan' := by
  induction rest generalizing rounds scan with
  | nil =>
    cases h
    rwa [List.map_nil, List.append_nil]
  | cons indexed rest ih =>
    rw [List.foldlM_cons, bind_eq_ok] at h
    obtain ⟨next, hstep, h⟩ := h
    have := ih (scanned_step hscan hstep) h
    rwa [List.append_assoc] at this

/-- The scan of all rounds. -/
theorem scanned_scanRounds {processes : List ProcessKey} {rounds : List ResourceRound} {scan : Scan}
    (h : scanRounds processes true rounds = .ok scan) : Scanned rounds scan := by
  have := scanned_foldlM scanned_nil h
  rwa [List.nil_append, List.zipIdx_map_fst] at this

end CryptoCollector.Benchmarks
