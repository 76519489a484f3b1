import CryptoCollector.Storage.Rolling
import CryptoCollector.Storage.Service.Actor

/-!
# The durability objective

`service.py: _evaluate_slo`. The objective is breached when the largest lag of the window exceeds
its limit, or the 99th percentile does. The percentile is known only as the upper bound of its
bucket, which may lie beyond the limit while all lags are within it; when the limit is itself a
bound of a bucket that cannot be.

* `lt_nearestRank_iff`: when the upper bound of a quantile exceeds a limit.
* `transitions_alternate`: the reported transitions of every run.
* `evaluateSlo_exact`: the state after an evaluation.
-/

namespace CryptoCollector.Storage

open Lib

/-! ## Quantiles by counting -/

/-- The rank of `_nearest_rank`. -/
def quantileRank (numerator sampleCount : Nat) : Nat :=
  max 1 ((numerator * sampleCount + 99) / 100)

/-- The counts of the buckets that end within a limit. -/
def countWithin (limit : Nat) (bounds counts : List Nat) : Nat :=
  ((bounds.zip counts).map fun x => if x.1 ≤ limit then x.2 else 0).sum

theorem countWithin_eq_zero {limit : Nat} {bounds counts : List Nat}
    (h : ∀ bound ∈ bounds, limit < bound) : countWithin limit bounds counts = 0 := by
  unfold countWithin
  rw [List.sum_eq_zero]
  intro n hn
  obtain ⟨x, hx, rfl⟩ := List.mem_map.mp hn
  exact if_neg (not_le.mpr (h x.1 (List.of_mem_zip hx).1))

/-- The walk ends beyond a limit when the buckets within it do not reach the rank. -/
theorem lt_rankWalk_iff {rank limit : Nat} {bounds counts : List Nat}
    (hsorted : bounds.Pairwise (· < ·)) {cumulative b : Nat} (hlow : cumulative < rank)
    (h : rankWalk rank cumulative bounds counts = some b) :
    limit < b ↔ cumulative + countWithin limit bounds counts < rank := by
  induction bounds generalizing cumulative counts with
  | nil => simp [rankWalk] at h
  | cons bound bounds ih =>
    cases counts with
    | nil => simp [rankWalk] at h
    | cons count counts =>
      obtain ⟨hbound, hrest⟩ := List.pairwise_cons.mp hsorted
      have hcons : countWithin limit (bound :: bounds) (count :: counts) =
          (if bound ≤ limit then count else 0) + countWithin limit bounds counts := rfl
      have hbeyond : limit < bound → countWithin limit bounds counts = 0 := fun hlt =>
        countWithin_eq_zero fun b hb => hlt.trans (hbound b hb)
      rw [rankWalk] at h
      rw [hcons]
      split_ifs at h with hrank
      · obtain rfl : bound = b := by simpa using h
        split_ifs with hle
        · omega
        · have := hbeyond (not_le.mp hle)
          omega
      · rw [ih hrest (not_le.mp hrank) h]
        split_ifs with hle
        · omega
        · have := hbeyond (not_le.mp hle)
          omega

/-- The buckets within a limit have the lags whose bucket ends within it. -/
theorem countWithin_eq {h : Histogram} {lags : List Nat} (hd : h.Describes lags) (limit : Nat) :
    countWithin limit bucketUpperBoundsNs h.bucketCounts =
      lags.countP fun lag => upperBound (bucketIndex lag) ≤ limit := by
  have hgroups : ((List.range bucketCount).flatMap fun i =>
      lags.filter (bucketIndex · = i)).Perm lags :=
    flatMap_filter_perm bucketIndex List.nodup_range lags fun lag hlag =>
      List.mem_range.mpr (bucketIndex_spec (hd.fits lag hlag)).1
  have hbounds : bucketUpperBoundsNs = (List.range bucketCount).map upperBound := by decide
  rw [← hgroups.countP_eq, List.countP_flatMap, countWithin, hd.bucketCounts, hbounds,
    List.zip_map', List.map_map]
  refine congrArg List.sum (List.map_congr_left fun i _ => ?_)
  simp only [Function.comp, List.countP_filter]
  split_ifs with hle
  · refine List.countP_congr fun lag _ => ?_
    simp only [Bool.and_eq_true, decide_eq_true_eq, iff_and_self]
    rintro rfl
    exact hle
  · refine (List.countP_eq_zero.mpr fun lag _ => ?_).symm
    simp only [Bool.and_eq_true, decide_eq_true_eq, not_and]
    rintro hin rfl
    exact hle hin

/-- The upper bound of a quantile exceeds a limit when too few lags lie in buckets within it. -/
theorem lt_nearestRank_iff {h : Histogram} {lags : List Nat} (hd : h.Describes lags)
    {numerator b : Nat} (hb : nearestRank h.bucketCounts h.sampleCount numerator = .ok (some b))
    (limit : Nat) : limit < b ↔ (lags.countP fun lag => upperBound (bucketIndex lag) ≤ limit) <
      quantileRank numerator lags.length := by
  unfold nearestRank at hb
  split_ifs at hb
  · cases hb
  split at hb
  · next hwalk =>
    cases hb
    have hpos : 0 < max 1 ((numerator * h.sampleCount + 99) / 100) := by omega
    rw [lt_rankWalk_iff (by decide) hpos hwalk, Nat.zero_add, countWithin_eq hd, hd.samples]
    rfl
  · cases hb

/-- Too few lags lie in buckets within a limit for the 99th percentile to be one of them. -/
def QuantileExceeds (limit : Nat) (lags : List Nat) : Prop :=
  lags ≠ [] ∧ (lags.countP fun lag => upperBound (bucketIndex lag) ≤ limit) <
    quantileRank 99 lags.length

/-- What the comparisons of `_evaluate_slo` find. -/
theorem breaches_iff {h : Histogram} {lags : List Nat} (hd : h.Describes lags)
    {s : HistogramSnapshot} (hs : h.snapshot = .ok s) (limit : Nat) :
    s.breaches limit = true ↔ (∃ lag ∈ lags, limit < lag) ∨ QuantileExceeds limit lags := by
  obtain ⟨-, hmax, -, -, hp99⟩ := Histogram.snapshot_ok hs
  have hlargest : s.lagMaxNs.any (limit < ·) = true ↔ ∃ lag ∈ lags, limit < lag := by
    rw [hmax, hd.max]
    cases hlags : lags.max? with
    | none =>
      rw [List.max?_eq_none_iff] at hlags
      simp [hlags]
    | some m =>
      obtain ⟨hmem, hle⟩ := List.max?_eq_some_iff.mp hlags
      simp only [Option.any_some, decide_eq_true_eq]
      exact ⟨fun hlt => ⟨m, hmem, hlt⟩, fun ⟨lag, hlag, hlt⟩ => hlt.trans_le (hle lag hlag)⟩
  have hquantile : s.lagP99Ns.any (limit < ·) = true ↔ QuantileExceeds limit lags := by
    unfold QuantileExceeds
    by_cases hempty : lags = []
    · have hnone : s.lagP99Ns = none := by
        rw [hd.samples, hempty, List.length_nil] at hp99
        exact (Except.ok.inj hp99).symm
      simp [hempty, hnone]
    · have hsamples : h.sampleCount ≠ 0 := by
        rw [hd.samples]
        exact fun h0 => hempty (List.length_eq_zero_iff.mp h0)
      obtain ⟨b, hb⟩ := nearestRank_isSome hsamples hp99
      rw [hb] at hp99 ⊢
      simp only [Option.any_some, decide_eq_true_eq]
      rw [lt_nearestRank_iff hd hp99, and_iff_right hempty]
  unfold HistogramSnapshot.breaches
  rw [Bool.or_eq_true, hlargest, hquantile]

/-- A limit that is the bound of a bucket is exceeded by the percentile only with a lag. -/
theorem exists_lt_of_quantileExceeds {limit : Nat} (hlimit : limit ∈ bucketUpperBoundsNs)
    {lags : List Nat} (hfits : ∀ lag ∈ lags, lag ≤ maxSignedInt64)
    (h : QuantileExceeds limit lags) : ∃ lag ∈ lags, limit < lag := by
  by_contra hnone
  obtain ⟨hne, hfew⟩ := h
  obtain ⟨i, hi, hbound⟩ := List.mem_iff_getElem.mp hlimit
  have hlimit' : upperBound i = limit := by
    rw [upperBound, List.getD_eq_getElem?_getD, List.getElem?_eq_getElem hi, Option.getD_some,
      hbound]
  have hall : (lags.countP fun lag => upperBound (bucketIndex lag) ≤ limit) = lags.length := by
    rw [List.countP_eq_length]
    intro lag hlag
    rw [decide_eq_true_eq, ← hlimit']
    refine upperBound_mono (not_lt.mp fun hlt => ?_) hi
    have := (bucketIndex_spec (hfits lag hlag)).2.2 i hlt
    exact hnone ⟨lag, hlag, hlimit' ▸ this⟩
  have hpos : 0 < lags.length := List.length_pos_iff.mpr hne
  unfold quantileRank at hfew
  omega

/-! ## Observations -/

/-- A row that has become durable. -/
structure Completion where
  identity : Identity
  lagNs : Nat
  completedNs : Nat
  lagNs_le : lagNs ≤ completedNs
  completedNs_le : completedNs ≤ maxSignedInt64

/-- What the objective depends on: a completed row, or an evaluation at a time. -/
inductive Observation where
  | complete (completion : Completion)
  | evaluate (observedNs : Nat)

namespace Observation

/-- The time of an observation. -/
def timeNs : Observation → Nat
  | .complete c => c.completedNs
  | .evaluate observedNs => observedNs

/-- The sample of a completed row. -/
def sample? : Observation → Option LagSample
  | .complete c => some ⟨c.lagNs, c.completedNs⟩
  | .evaluate _ => none

/-- What `_account_durable` or `_evaluate_slo` do to the writer, whether the callback raises or
not. -/
def exec (p : Params) (w : Writer) : Observation → Writer
  | .complete c => { w with
      acct := w.acct.sample p.metricStreamAllowlist c.identity c.lagNs c.completedNs }
  | .evaluate observedNs => (Writer.evaluateSlo p observedNs w).2

/-- The transition that `_evaluate_slo` builds and reports. -/
def transition (p : Params) (w : Writer) : Observation → Option SloTransition
  | .complete _ => none
  | .evaluate observedNs =>
    match (w.acct.rollingHistogram.snapshot observedNs).2 with
    | .error _ => none
    | .ok s =>
      if s.breaches p.writer.durabilitySloNs = w.acct.sloBreached then none
      else some ⟨s.breaches p.writer.durabilitySloNs, observedNs, s.lagP99Ns, s.lagMaxNs⟩

end Observation

/-- The writer after some observations. -/
def observe (p : Params) (w : Writer) (observations : List Observation) : Writer :=
  observations.foldl (Observation.exec p) w

/-- The transitions that are reported on the way. -/
def transitions (p : Params) (w : Writer) : List Observation → List SloTransition
  | [] => []
  | observation :: rest =>
    (observation.transition p w).toList ++ transitions p (observation.exec p w) rest

/-- A transition is reported exactly when the state changes, and a breach is counted with it. -/
theorem exec_transition (p : Params) (w : Writer) (observation : Observation) :
    match observation.transition p w with
    | none => (observation.exec p w).acct.sloBreached = w.acct.sloBreached ∧
        (observation.exec p w).acct.sloBreachCount = w.acct.sloBreachCount
    | some t => t.breached = !w.acct.sloBreached ∧
        (observation.exec p w).acct.sloBreached = t.breached ∧
        (observation.exec p w).acct.sloBreachCount =
          w.acct.sloBreachCount + if t.breached then 1 else 0 := by
  cases observation with
  | complete c => exact ⟨rfl, rfl⟩
  | evaluate observedNs =>
    simp only [Observation.transition, Observation.exec, Writer.evaluateSlo]
    obtain ⟨rolling, result⟩ := w.acct.rollingHistogram.snapshot observedNs
    cases result with
    | error e => exact ⟨rfl, rfl⟩
    | ok s =>
      dsimp only
      by_cases hsame : s.breaches p.writer.durabilitySloNs = w.acct.sloBreached
      · rw [if_pos hsame, if_pos hsame]
        exact ⟨rfl, rfl⟩
      · rw [if_neg hsame, if_neg hsame]
        refine ⟨Bool.eq_not.mpr hsame, rfl, ?_⟩
        cases hb : s.breaches p.writer.durabilitySloNs <;> simp [Writer.setBreached, Writer.setRolling]

/-- The transitions of every run alternate, beginning with the one that the state has not, and the
count grows with the breaches. -/
theorem transitions_alternate (p : Params) (w : Writer) (observations : List Observation) :
    (∀ i t, (transitions p w observations)[i]? = some t →
      t.breached = (w.acct.sloBreached ^^ decide (i % 2 = 0))) ∧
    (observe p w observations).acct.sloBreachCount =
      w.acct.sloBreachCount + (transitions p w observations).countP (·.breached) := by
  induction observations generalizing w with
  | nil => exact ⟨fun i t h => by simp [transitions] at h, rfl⟩
  | cons observation rest ih =>
    obtain ⟨halternate, hcount⟩ := ih (observation.exec p w)
    have hstep := exec_transition p w observation
    rw [transitions]
    cases htransition : observation.transition p w with
    | none =>
      rw [htransition] at hstep
      obtain ⟨hstate, hbreaches⟩ := hstep
      rw [hstate] at halternate
      refine ⟨by simpa using halternate, ?_⟩
      simpa [observe, hbreaches] using hcount
    | some t =>
      rw [htransition] at hstep
      obtain ⟨hflip, hstate, hbreaches⟩ := hstep
      constructor
      · intro i t' ht'
        cases i with
        | zero =>
          obtain rfl : t = t' := by simpa using ht'
          simp [hflip]
        | succ i =>
          have hrest := halternate i t' (by simpa using ht')
          rw [hrest, hstate, hflip]
          rcases Nat.mod_two_eq_zero_or_one i with h | h
          · have hsucc : (i + 1) % 2 ≠ 0 := by omega
            simp [h, hsucc]
          · have hsucc : (i + 1) % 2 = 0 := by omega
            have hne : i % 2 ≠ 0 := by omega
            simp [hne, hsucc]
      · have hsum : (observe p w (observation :: rest)).acct.sloBreachCount =
            (observation.exec p w).acct.sloBreachCount +
              (transitions p (observation.exec p w) rest).countP (·.breached) := hcount
        rw [hsum, hbreaches, Option.toList_some, List.singleton_append, List.countP_cons]
        omega

/-! ## The state -/

/-- A service that has observed nothing yet. -/
structure Unobserved (w : Writer) : Prop where
  rolling : w.acct.rollingHistogram = {}
  breached : w.acct.sloBreached = false
  count : w.acct.sloBreachCount = 0

theorem rollingHistogram_evaluateSlo (p : Params) (observedNs : Nat) (w : Writer) :
    (Writer.evaluateSlo p observedNs w).2.acct.rollingHistogram =
      (w.acct.rollingHistogram.snapshot observedNs).1 := by
  unfold Writer.evaluateSlo
  obtain ⟨rolling, result⟩ := w.acct.rollingHistogram.snapshot observedNs
  cases result with
  | error e => rfl
  | ok s =>
    dsimp only
    split <;> rfl

/-- The rolling histogram tracks the completed rows, whatever is evaluated on the way. -/
theorem tracks_observe (p : Params) {w : Writer} {samples : List LagSample}
    (h : w.acct.rollingHistogram.Tracks samples) (observations : List Observation) :
    (observe p w observations).acct.rollingHistogram.Tracks
      (samples ++ observations.filterMap Observation.sample?) := by
  induction observations generalizing w samples with
  | nil => simpa [observe] using h
  | cons observation rest ih =>
    cases observation with
    | complete c =>
      have hadd := h.add (x := ⟨c.lagNs, c.completedNs⟩) (c.lagNs_le.trans c.completedNs_le)
      have hrest := @ih (Observation.exec p w (.complete c)) _ hadd
      rw [List.append_assoc] at hrest
      exact hrest
    | evaluate observedNs =>
      have hsnapshot := h.snapshot observedNs
      rw [← rollingHistogram_evaluateSlo p] at hsnapshot
      exact @ih (Observation.exec p w (.evaluate observedNs)) _ hsnapshot

/-- The seconds that the window has reached are those of the observations. -/
theorem latestSecond_observe (p : Params) (w : Writer) (observations : List Observation) :
    ∀ latest ∈ (observe p w observations).acct.rollingHistogram.latestSecond,
      latest ∈ w.acct.rollingHistogram.latestSecond ∨
        ∃ observation ∈ observations, latest = observation.timeNs / nsPerSecond := by
  induction observations generalizing w with
  | nil => exact fun latest h => .inl h
  | cons observation rest ih =>
    intro latest hlatest
    rcases ih (observation.exec p w) latest hlatest with hstep | ⟨o, ho, hsecond⟩
    · have hone : latest ∈ w.acct.rollingHistogram.latestSecond ∨
          latest = observation.timeNs / nsPerSecond := by
        cases observation with
        | complete c => exact RollingHistogram.latestSecond_add _ _ _ latest hstep
        | evaluate observedNs =>
          rw [Observation.exec, rollingHistogram_evaluateSlo] at hstep
          exact RollingHistogram.latestSecond_snapshot _ _ latest hstep
      exact hone.imp_right fun h => ⟨observation, List.mem_cons_self, h⟩
    · exact .inr ⟨o, List.mem_cons_of_mem _ ho, hsecond⟩

/-- An evaluation that gets its snapshot leaves the state that the snapshot asks for. -/
theorem sloBreached_evaluateSlo {p : Params} {observedNs : Nat} {w : Writer}
    {rolling : RollingHistogram} {s : HistogramSnapshot}
    (h : w.acct.rollingHistogram.snapshot observedNs = (rolling, .ok s)) :
    (Writer.evaluateSlo p observedNs w).2.acct.sloBreached =
      s.breaches p.writer.durabilitySloNs := by
  unfold Writer.evaluateSlo
  rw [h]
  dsimp only
  split
  · next hsame => exact hsame.symm
  · rfl

/-- After an evaluation, the last of observations at times that do not decrease, the writer is in
the breached state exactly when a lag of its window exceeds the limit, or the upper bound of the
99th percentile's bucket does; the second is no case of its own when the limit is a bound of a
bucket. The reported transitions alternate, beginning with a breach, and the breaches are
counted. -/
theorem evaluateSlo_exact (p : Params) {w : Writer} (hw : Unobserved w)
    (observations : List Observation) (observedNs : Nat) (hvalid : observedNs ≤ maxSignedInt64)
    (hsorted : (observations ++ [Observation.evaluate observedNs]).Pairwise fun a b =>
      a.timeNs ≤ b.timeNs)
    (hcount : (RollingHistogram.windowLags (observedNs / nsPerSecond)
      (observations.filterMap Observation.sample?)).length ≤ maxSignedInt64) :
    let lags := RollingHistogram.windowLags (observedNs / nsPerSecond)
      (observations.filterMap Observation.sample?)
    let limit := p.writer.durabilitySloNs
    let w' := observe p w (observations ++ [.evaluate observedNs])
    let reported := transitions p w (observations ++ [.evaluate observedNs])
    (w'.acct.sloBreached = true ↔ (∃ lag ∈ lags, limit < lag) ∨ QuantileExceeds limit lags) ∧
    (limit ∈ bucketUpperBoundsNs →
      (w'.acct.sloBreached = true ↔ ∃ lag ∈ lags, limit < lag)) ∧
    (∀ i t, reported[i]? = some t → (t.breached = true ↔ i % 2 = 0)) ∧
    w'.acct.sloBreachCount = reported.countP (·.breached) := by
  dsimp only
  obtain ⟨halternate, hbreaches⟩ :=
    transitions_alternate p w (observations ++ [.evaluate observedNs])
  have hempty : w.acct.rollingHistogram.Tracks [] := by
    rw [hw.rolling]
    exact RollingHistogram.tracks_new
  have htracks := tracks_observe p hempty observations
  rw [List.nil_append] at htracks
  have hforward : ∀ latest ∈ (observe p w observations).acct.rollingHistogram.latestSecond,
      latest ≤ observedNs / nsPerSecond := by
    intro latest hlatest
    rcases latestSecond_observe p w observations latest hlatest with hnone | ⟨o, ho, rfl⟩
    · rw [hw.rolling] at hnone
      cases hnone
    · refine Nat.div_le_div_right ?_
      exact (List.pairwise_append.mp hsorted).2.2 o ho _ (List.mem_singleton.mpr rfl)
  have hlast : observe p w (observations ++ [.evaluate observedNs]) =
      (Writer.evaluateSlo p observedNs (observe p w observations)).2 := by
    rw [observe, List.foldl_append]
    rfl
  -- the snapshot of the last evaluation describes the window
  obtain ⟨s, hbreached, hstate⟩ : ∃ s : HistogramSnapshot,
      (observe p w (observations ++ [.evaluate observedNs])).acct.sloBreached =
        s.breaches p.writer.durabilitySloNs ∧
      (s.breaches p.writer.durabilitySloNs = true ↔
        (∃ lag ∈ RollingHistogram.windowLags (observedNs / nsPerSecond)
          (observations.filterMap Observation.sample?), p.writer.durabilitySloNs < lag) ∨
        QuantileExceeds p.writer.durabilitySloNs
          (RollingHistogram.windowLags (observedNs / nsPerSecond)
            (observations.filterMap Observation.sample?))) := by
    rcases RollingHistogram.snapshot_cases htracks hvalid with
      ⟨latest, hlatest, hback, -⟩ | ⟨-, r', hr', hlatest, hsnapshot⟩
    · exact absurd (hforward latest hlatest) (not_le.mpr hback)
    · have hd := hr'.collect hlatest
      obtain ⟨s, hs, -⟩ := hd.snapshot hcount
      rw [hs] at hsnapshot
      rw [hlast]
      exact ⟨s, sloBreached_evaluateSlo hsnapshot, breaches_iff hd hs _⟩
  rw [hbreached, hstate]
  refine ⟨Iff.rfl, fun hlimit => ?_, fun i t ht => ?_, ?_⟩
  · refine or_iff_left_of_imp (exists_lt_of_quantileExceeds hlimit fun lag hlag => ?_)
    obtain ⟨x, hx, rfl⟩ := List.mem_map.mp hlag
    exact htracks.fits x (List.mem_filter.mp hx).1
  · rw [halternate i t ht, hw.breached, Bool.false_xor, decide_eq_true_eq]
  · rw [hbreaches, hw.count, Nat.zero_add]

/-! ## A limit between two bounds -/

/-- The service with a limit of a second and two tenths, between two bounds of buckets. -/
def betweenParams : Params :=
  { smallParams with writer := { smallParams.writer with durabilitySloNs := 1200000000 } }

/-- A row that has taken a second and a tenth. -/
def slowRow : Completion where
  identity := ⟨.control, 0, 0, "", 1⟩
  lagNs := 1100000000
  completedNs := 1100000000
  lagNs_le := le_rfl
  completedNs_le := by decide

/-- A service without a record. -/
def idleWriter (p : Params) : Writer where
  configSha256 := ""
  configGeneration := 1
  core := { parts := { configSha256 := "", configGeneration := 1, nextPartSequence := 0 }
            clock := ⟨0, [], []⟩ }
  ingress := { configSha256 := "", configGeneration := 1 }
  acct := { budget := ⟨p.ingress.workerMaxBytes, p.ingress.controlReserveBytes, .empty, 0, 0, 0, 0⟩ }

theorem unobserved_idle (p : Params) : Unobserved (idleWriter p) := ⟨rfl, rfl, rfl⟩

/-- One row of a second and a tenth: the state after it, and the breach that is counted. -/
theorem slowRow_exact :
    let w' := observe betweenParams (idleWriter betweenParams)
      ([.complete slowRow] ++ [.evaluate 1100000000])
    (w'.acct.sloBreached = true ↔ (∃ lag ∈ [1100000000], 1200000000 < lag) ∨
      QuantileExceeds 1200000000 [1100000000]) ∧
    w'.acct.sloBreachCount = (transitions betweenParams (idleWriter betweenParams)
      ([.complete slowRow] ++ [.evaluate 1100000000])).countP (·.breached) := by
  obtain ⟨hstate, -, -, hcount⟩ := evaluateSlo_exact betweenParams
    (unobserved_idle betweenParams) [.complete slowRow] 1100000000 (by decide)
    (List.pairwise_pair.mpr (le_refl 1100000000)) (by decide)
  exact ⟨hstate, hcount⟩

/-- The writer is in the breached state though the only row has met its limit. -/
theorem slowRow_breaches :
    (observe betweenParams (idleWriter betweenParams)
      [.complete slowRow, .evaluate 1100000000]).acct.sloBreached = true ∧
    slowRow.lagNs ≤ betweenParams.writer.durabilitySloNs := by
  constructor <;> decide +kernel

end CryptoCollector.Storage
