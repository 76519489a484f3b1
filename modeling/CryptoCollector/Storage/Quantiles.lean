import CryptoCollector.Lib.Ranks
import CryptoCollector.Storage.Rolling
import CryptoCollector.Storage.Service.Metrics
import Mathlib.GroupTheory.GroupAction.Ring

/-!
# Quantiles of durability lags

What a quantile of a histogram says about the lags: it is the least bound of the schema that is
not below the lag of the rank (`Describes.isQuantile`). The rule is written three more times, in
`storage/models.py`, `benchmarks/contracts.py` and `benchmarks/aggregation.py`; the checks of a
histogram's fields accept every snapshot of a histogram (`Describes.validateFields`).
-/

namespace CryptoCollector.Storage

open Lib

/-! ## The rank walk -/

/-- The walk stops in the bucket in which the rank is reached. -/
theorem exists_of_rankWalk {rank cumulative b : Nat} {bounds counts : List Nat}
    (hlow : cumulative < rank) (h : rankWalk rank cumulative bounds counts = some b) :
    ∃ i, bounds[i]? = some b ∧ i < counts.length ∧ cumulative + (counts.take i).sum < rank ∧
      rank ≤ cumulative + (counts.take (i + 1)).sum := by
  induction bounds generalizing cumulative counts with
  | nil => simp [rankWalk] at h
  | cons bound bounds ih =>
    cases counts with
    | nil => simp [rankWalk] at h
    | cons count counts =>
      rw [rankWalk] at h
      split_ifs at h with hrank
      · exact ⟨0, by simpa using h, by simp, by simpa using hlow, by simpa using hrank⟩
      · obtain ⟨i, hb, hi, hbelow, habove⟩ := ih (by omega) h
        refine ⟨i + 1, by simpa using hb, by simpa using hi, ?_, ?_⟩
        · simp only [List.take_succ_cons, List.sum_cons]
          omega
        · rw [List.take_succ_cons, List.sum_cons]
          omega

/-- The lags of the first buckets are those up to a bound. -/
theorem bucketIndex_lt_succ_iff {lag i : Nat} (h : lag ≤ maxSignedInt64) (hi : i < bucketCount) :
    bucketIndex lag < i + 1 ↔ lag ≤ upperBound i := by
  obtain ⟨-, hle, hbelow⟩ := bucketIndex_spec h
  constructor
  · intro hlt
    exact hle.trans (upperBound_mono (by omega) hi)
  · intro hlag
    by_contra hge
    have := hbelow i (by omega)
    omega

/-- A lag lies in its bucket. -/
theorem inBucket_bucketIndex {lag : Nat} (h : lag ≤ maxSignedInt64) :
    inBucket (bucketIndex lag) lag = true := by
  obtain ⟨-, hle, hbelow⟩ := bucketIndex_spec h
  have hlower : bucketIndex lag = 0 ∨
      bucketUpperBoundsNs.getD (bucketIndex lag - 1) 0 < lag := by
    rcases Nat.eq_zero_or_pos (bucketIndex lag) with h0 | hpos
    · exact .inl h0
    · exact .inr (hbelow _ (by omega))
  simpa [inBucket] using ⟨hlower, hle⟩

theorem exists_upperBound {bound : Nat} (h : bound ∈ bucketUpperBoundsNs) :
    ∃ i < bucketCount, upperBound i = bound := by
  obtain ⟨i, hi, rfl⟩ := List.mem_iff_getElem.mp h
  exact ⟨i, hi, by simp [upperBound, List.getD_eq_getElem?_getD, hi]⟩

/-- The rank of a percentage is the rounded-up one, from the first sample to the last. -/
theorem rank_bounds {percent samples : Nat} (hpos : 0 < percent) (hle : percent ≤ 100)
    (hn : 0 < samples) :
    0 < percent * samples ⌈/⌉ 100 ∧ percent * samples ⌈/⌉ 100 ≤ samples := by
  have hprod : 0 < percent * samples := Nat.mul_pos hpos hn
  have hprod' : percent * samples ≤ 100 * samples := Nat.mul_le_mul_right _ hle
  rw [Nat.ceilDiv_eq_add_pred_div]
  omega

theorem rankWalk_of_nearestRank {counts : List Nat} {samples percent b : Nat}
    (hpos : 0 < percent) (hn : 0 < samples)
    (h : nearestRank counts samples percent = .ok (some b)) :
    rankWalk (percent * samples ⌈/⌉ 100) 0 bucketUpperBoundsNs counts = some b := by
  have hprod : 0 < percent * samples := Nat.mul_pos hpos hn
  have hrank : max 1 ((percent * samples + 99) / 100) = percent * samples ⌈/⌉ 100 := by
    rw [Nat.ceilDiv_eq_add_pred_div]
    omega
  unfold nearestRank at h
  rw [if_neg hn.ne', hrank] at h
  cases hwalk : rankWalk (percent * samples ⌈/⌉ 100) 0 bucketUpperBoundsNs counts with
  | none => simp [hwalk] at h
  | some b' => simpa [hwalk] using h

/-- A quantile of some lags: the least bound of the schema that is not below the lag of the
rank. -/
def IsQuantile (lags : List Nat) (percent : Nat) (q : Option Nat) : Prop :=
  ∃ lag b, nthSmallest lags (percent * lags.length ⌈/⌉ 100) = some lag ∧ q = some b ∧
    IsLeast {bound | bound ∈ bucketUpperBoundsNs ∧ lag ≤ bound} b

/-! ## Copies of the rule -/

/-- The nearest rank of a histogram, with the error of one copy of the rule. -/
def nearestRankOr (failure : Err) (bucketCounts : List Nat) (sampleCount numerator : Nat) :
    Except Err (Option Nat) :=
  if sampleCount = 0 then .ok none
  else
    match rankWalk (max 1 ((numerator * sampleCount + 99) / 100)) 0 bucketUpperBoundsNs
      bucketCounts with
    | some bound => .ok (some bound)
    | none => .error failure

/-- The texts of one check of a histogram's fields. -/
structure FieldTexts where
  rank : String
  schema : String
  samples : String
  quantiles : String
  noMaximum : String
  maximum : String
  bucket : String

/-- A check of the fields of a histogram. -/
def validateFields (texts : FieldTexts) (bucketCounts : List Nat) (sampleCount : Nat)
    (p50 p95 p99 maximum : Option Nat) : Except Err Unit := do
  if bucketCounts.length ≠ bucketCount then throw (.valueError texts.schema)
  if bucketCounts.sum ≠ sampleCount then throw (.valueError texts.samples)
  let q50 ← nearestRankOr (.valueError texts.rank) bucketCounts sampleCount 50
  let q95 ← nearestRankOr (.valueError texts.rank) bucketCounts sampleCount 95
  let q99 ← nearestRankOr (.valueError texts.rank) bucketCounts sampleCount 99
  if (p50, p95, p99) ≠ (q50, q95, q99) then throw (.valueError texts.quantiles)
  if sampleCount = 0 then
    if maximum.isSome then throw (.valueError texts.noMaximum)
  else
    match maximum with
    | none => throw (.valueError texts.maximum)
    | some lag =>
      match highestNonempty bucketCounts with
      | none => throw (.valueError "max() iterable argument is empty")
      | some index => if !inBucket index lag then throw (.valueError texts.bucket)

namespace Models

/-- The texts of `_validate_histogram_fields`. -/
def fieldTexts : FieldTexts where
  rank := "histogram buckets do not contain sample_count values"
  schema := "bucket_counts must match the durability histogram schema"
  samples := "histogram sample count must equal the disjoint bucket sum"
  quantiles := "durability quantiles must match nearest-rank buckets"
  noMaximum := "empty histogram cannot have a maximum"
  maximum := "nonempty histogram requires a maximum"
  bucket := "histogram maximum must use its highest nonempty bucket"

/-- `_nearest_rank`. -/
def nearestRank : List Nat → Nat → Nat → Except Err (Option Nat) :=
  nearestRankOr (.valueError fieldTexts.rank)

/-- `_validate_histogram_fields`. -/
def validateHistogramFields (bucketCounts : List Nat) (sampleCount : Nat)
    (lagP50Ns lagP95Ns lagP99Ns lagMaxNs : Option Nat) : Except Err Unit :=
  validateFields fieldTexts bucketCounts sampleCount lagP50Ns lagP95Ns lagP99Ns lagMaxNs

end Models

/-- The copies of the rule agree wherever `_nearest_rank` of `storage/stats.py` returns. -/
theorem nearestRankOr_ok_iff {failure : Err} {counts : List Nat} {samples numerator : Nat}
    {q : Option Nat} :
    nearestRankOr failure counts samples numerator = .ok q ↔
      nearestRank counts samples numerator = .ok q := by
  unfold nearestRankOr nearestRank
  split_ifs
  · exact Iff.rfl
  · cases rankWalk (max 1 ((numerator * samples + 99) / 100)) 0 bucketUpperBoundsNs counts with
    | some bound => exact Iff.rfl
    | none => simp

/-- What the fields of an accepted histogram say. -/
structure FieldsAgree (bucketCounts : List Nat) (sampleCount : Nat)
    (p50 p95 p99 maximum : Option Nat) : Prop where
  length : bucketCounts.length = bucketCount
  sum : bucketCounts.sum = sampleCount
  p50 : nearestRank bucketCounts sampleCount 50 = .ok p50
  p95 : nearestRank bucketCounts sampleCount 95 = .ok p95
  p99 : nearestRank bucketCounts sampleCount 99 = .ok p99
  empty : sampleCount = 0 → maximum = none
  maximum : sampleCount ≠ 0 → ∃ lag index, maximum = some lag ∧
    highestNonempty bucketCounts = some index ∧ inBucket index lag = true

/-- A check of the fields accepts exactly the fields that agree, whatever its texts. -/
theorem validateFields_eq_ok {texts : FieldTexts} {counts : List Nat} {samples : Nat}
    {p50 p95 p99 maximum : Option Nat} :
    validateFields texts counts samples p50 p95 p99 maximum = .ok () ↔
      FieldsAgree counts samples p50 p95 p99 maximum := by
  unfold validateFields
  simp only [throw_bind_eq_ok, bind_eq_ok, nearestRankOr_ok_iff, not_not]
  constructor
  · rintro ⟨hlength, hsum, q50, h50, q95, h95, q99, h99, hq, hmax⟩
    obtain ⟨rfl, rfl, rfl⟩ : p50 = q50 ∧ p95 = q95 ∧ p99 = q99 := by simpa using hq
    by_cases h0 : samples = 0
    · rw [if_pos h0, throw_eq_ok] at hmax
      exact ⟨hlength, hsum, h50, h95, h99, fun _ => by simpa using hmax, fun h => absurd h0 h⟩
    · refine ⟨hlength, hsum, h50, h95, h99, fun h => absurd h h0, fun _ => ?_⟩
      rw [if_neg h0] at hmax
      cases maximum with
      | none => cases hmax
      | some lag =>
        cases hindex : highestNonempty counts with
        | none =>
          rw [hindex] at hmax
          cases hmax
        | some index =>
          rw [hindex] at hmax
          simp only [throw_eq_ok] at hmax
          exact ⟨lag, index, rfl, rfl, by simpa using hmax⟩
  · intro h
    refine ⟨h.length, h.sum, p50, h.p50, p95, h.p95, p99, h.p99, rfl, ?_⟩
    by_cases h0 : samples = 0
    · rw [if_pos h0, h.empty h0]
      rfl
    · obtain ⟨lag, index, rfl, hindex, hbucket⟩ := h.maximum h0
      rw [if_neg h0, hindex]
      simp [hbucket]
      rfl

/-- The checks of a metrics snapshot are those of `_validate_histogram_fields`. -/
theorem run_histogramChecks {counts : List Nat} {samples : Nat}
    {p50 p95 p99 maximum : Option Nat} :
    (histogramChecks counts samples p50 p95 p99 maximum).run = .ok () ↔
      FieldsAgree counts samples p50 p95 p99 maximum := by
  have hok {x : Except Err (Option Nat)} {q : Option Nat} :
      x.toOption = some q ↔ x = .ok q := by
    cases x <;> simp [Except.toOption]
  have hmax : (maximum.all fun lag => (highestNonempty counts).any (inBucket · lag)) = true ↔
      ∀ lag, maximum = some lag → ∃ index, highestNonempty counts = some index ∧
        inBucket index lag = true := by
    cases maximum with
    | none => simp
    | some lag => cases highestNonempty counts <;> simp
  rw [Checks.run_eq_ok]
  simp only [histogramChecks, List.forall_mem_cons, List.not_mem_nil, false_implies,
    implies_true, and_true, decide_eq_true_eq, hok, hmax]
  constructor
  · rintro ⟨hlength, hsum, ⟨h50, h95, h99⟩, hempty, hsome, hbucket⟩
    refine ⟨hlength, hsum, h50, h95, h99, fun h => hempty.resolve_left (absurd h), fun h => ?_⟩
    obtain ⟨lag, hlag⟩ := Option.isSome_iff_exists.mp (hsome.resolve_left h)
    obtain ⟨index, hindex, hin⟩ := hbucket lag hlag
    exact ⟨lag, index, hlag, hindex, hin⟩
  · intro h
    refine ⟨h.length, h.sum, ⟨h.p50, h.p95, h.p99⟩, ?_, ?_, ?_⟩
    · exact Classical.or_iff_not_imp_left.mpr fun h0 => h.empty (not_not.mp h0)
    · refine Classical.or_iff_not_imp_left.mpr fun h0 => ?_
      obtain ⟨lag, index, hlag, -⟩ := h.maximum h0
      exact Option.isSome_iff_exists.mpr ⟨lag, hlag⟩
    · intro lag hlag
      have h0 : samples ≠ 0 := by
        intro h0
        rw [h.empty h0] at hlag
        cases hlag
      obtain ⟨lag', index, hlag', hindex, hin⟩ := h.maximum h0
      obtain rfl : lag' = lag := Option.some.inj (hlag'.symm.trans hlag)
      exact ⟨index, hindex, hin⟩

/-! ## Histograms of lags -/

namespace Histogram

variable {h : Histogram} {lags : List Nat}

/-- The first buckets hold the lags up to their last bound. -/
theorem Describes.sum_take (hd : h.Describes lags) {i : Nat} (hi : i < bucketCount) :
    (h.bucketCounts.take (i + 1)).sum = lags.countP (· ≤ upperBound i) := by
  rw [sum_take_of_countP hd.counts]
  refine List.countP_congr fun lag hlag => ?_
  simpa using bucketIndex_lt_succ_iff (hd.fits lag hlag) hi

/-- The reported quantile is the least bound that is not below the lag of the rank. -/
theorem Describes.isQuantile (hd : h.Describes lags) (hne : lags ≠ []) {percent : Nat}
    (hpos : 0 < percent) (hle : percent ≤ 100) {q : Option Nat}
    (hq : nearestRank h.bucketCounts lags.length percent = .ok q) :
    IsQuantile lags percent q := by
  have hn : 0 < lags.length := List.length_pos_iff.mpr hne
  obtain ⟨hpositive, hrank⟩ := rank_bounds hpos hle hn
  obtain ⟨lag, hlag⟩ := exists_nthSmallest hpositive hrank
  obtain ⟨b, rfl⟩ := nearestRank_isSome hn.ne' hq
  have hwalk := rankWalk_of_nearestRank hpos hn hq
  obtain ⟨i, hb, hi, hbelow, habove⟩ := exists_of_rankWalk hpositive hwalk
  rw [hd.length] at hi
  have hbound : upperBound i = b := by simp [upperBound, List.getD_eq_getElem?_getD, hb]
  rw [Nat.zero_add, hd.sum_take hi] at habove
  refine ⟨lag, b, hlag, rfl, ⟨List.mem_of_getElem? hb, ?_⟩, ?_⟩
  · rw [nthSmallest_le_iff hpositive hlag, ← hbound]
    exact habove
  · rintro bound ⟨hmem, hbound'⟩
    obtain ⟨j, hj, rfl⟩ := exists_upperBound hmem
    have hij : i ≤ j := by
      by_contra hlt
      rw [nthSmallest_le_iff hpositive hlag, ← hd.sum_take hj] at hbound'
      have hprefix : (h.bucketCounts.take (j + 1)).sum ≤ (h.bucketCounts.take i).sum :=
        (List.take_sublist_take_left (by omega)).sum_le_sum fun _ _ => Nat.zero_le _
      omega
    exact hbound ▸ upperBound_mono hij hj

/-- The fields of a snapshot agree. -/
theorem Describes.fieldsAgree (hd : h.Describes lags) {s : HistogramSnapshot}
    (hs : h.snapshot = .ok s) :
    FieldsAgree s.bucketCounts s.sampleCount s.lagP50Ns s.lagP95Ns s.lagP99Ns s.lagMaxNs := by
  obtain ⟨hsamples, hmax, h50, h95, h99⟩ := snapshot_ok hs
  have hcounts : s.bucketCounts = h.bucketCounts := (snapshot_counters hs).1
  rw [hd.samples] at hsamples h50 h95 h99
  rw [hd.max] at hmax
  rw [hcounts, hsamples, hmax]
  refine ⟨hd.length, hd.sum, h50, h95, h99, ?_, ?_⟩
  · intro h0
    rw [List.length_eq_zero_iff.mp h0]
    rfl
  · intro h0
    have hne : lags ≠ [] := fun hnil => h0 (by rw [hnil]; rfl)
    obtain ⟨m, hm⟩ := Option.isSome_iff_exists.mp (List.isSome_max?_of_ne_nil hne)
    have hfit := hd.fits m (List.max?_eq_some_iff.mp hm).1
    exact ⟨m, _, hm, hd.highestNonempty hm, inBucket_bucketIndex hfit⟩

end Histogram

/-! ## Adding with the checks of the source -/

/-- `_bucket_index`. -/
def bucketIndexOf (lag : Nat) : Except Err Nat :=
  if bucketIndex lag = bucketCount then .error (.valueError "lag_ns exceeds the histogram schema")
  else .ok (bucketIndex lag)

namespace Histogram

/-- `CumulativeDurabilityHistogram.add`. -/
def tryAdd (h : Histogram) (lagNs : Int) : Except Err Histogram := do
  let lag ← statsInteger lagNs "lag_ns"
  let _ ← bucketIndexOf lag
  return h.add lag

/-- A new histogram to which some lags are added in turn. -/
def ofLags (lags : List Nat) : Except Err Histogram :=
  lags.foldlM (fun h (lag : Nat) => h.tryAdd lag) {}

theorem tryAdd_eq_ok {lag : Nat} (hlag : lag ≤ maxSignedInt64) (h : Histogram) :
    h.tryAdd lag = .ok (h.add lag) := by
  have hinteger : statsInteger lag "lag_ns" = .ok lag := statsInteger_eq_ok.mpr ⟨rfl, hlag⟩
  have hindex := (bucketIndex_spec hlag).1.ne
  simp [tryAdd, hinteger, bucketIndexOf, hindex, pure, Except.pure]

/-- Lags that fit are added without an error, and the histogram describes them. -/
theorem exists_ofLags (hfits : ∀ lag ∈ lags, lag ≤ maxSignedInt64) :
    ∃ h, ofLags lags = .ok h ∧ h.Describes lags := by
  have hfold (lags : List Nat) (h : Histogram) (hfits : ∀ lag ∈ lags, lag ≤ maxSignedInt64) :
      lags.foldlM (fun h (lag : Nat) => h.tryAdd lag) h = .ok (h.addAll lags) := by
    induction lags generalizing h with
    | nil => rfl
    | cons lag lags ih =>
      rw [List.foldlM_cons, tryAdd_eq_ok (hfits lag List.mem_cons_self), ok_bind]
      exact ih (h.add lag) fun l hl => hfits l (List.mem_cons_of_mem _ hl)
  exact ⟨_, hfold lags {} hfits, by simpa using describes_nil.addAll hfits⟩

end Histogram

/-! ## What a snapshot reports -/

/-- What a snapshot of some lags reports: its quantiles, in order, and its maximum. -/
structure HistogramSnapshot.Reports (s : HistogramSnapshot) (lags : List Nat) : Prop where
  p50 : IsQuantile lags 50 s.lagP50Ns
  p95 : IsQuantile lags 95 s.lagP95Ns
  p99 : IsQuantile lags 99 s.lagP99Ns
  ordered : ∃ p50 p95 p99, s.lagP50Ns = some p50 ∧ s.lagP95Ns = some p95 ∧
    s.lagP99Ns = some p99 ∧ p50 ≤ p95 ∧ p95 ≤ p99
  maximum : s.lagMaxNs = lags.max?

theorem Histogram.Describes.reports {h : Histogram} {lags : List Nat} (hd : h.Describes lags)
    (hne : lags ≠ []) {s : HistogramSnapshot} (hs : h.snapshot = .ok s) : s.Reports lags := by
  obtain ⟨-, hmax, h50, h95, h99⟩ := snapshot_ok hs
  rw [hd.samples] at h50 h95 h99
  have hn : lags.length ≠ 0 := fun h0 => hne (List.length_eq_zero_iff.mp h0)
  refine ⟨hd.isQuantile hne (by decide) (by decide) h50,
    hd.isQuantile hne (by decide) (by decide) h95,
    hd.isQuantile hne (by decide) (by decide) h99, ?_, hmax.trans hd.max⟩
  obtain ⟨p50, hp50⟩ := nearestRank_isSome hn h50
  obtain ⟨p95, hp95⟩ := nearestRank_isSome hn h95
  obtain ⟨p99, hp99⟩ := nearestRank_isSome hn h99
  rw [hp50] at h50
  rw [hp95] at h95
  rw [hp99] at h99
  exact ⟨p50, p95, p99, hp50, hp95, hp99, nearestRank_mono (by decide) h50 h95,
    nearestRank_mono (by decide) h95 h99⟩

/-- A histogram of lags reports their quantiles and their maximum, and the fields of its snapshot
are accepted. There is a snapshot exactly as long as the number of the lags fits a signed 64-bit
integer. -/
theorem snapshot_reports (lags : List Nat) (hne : lags ≠ [])
    (hfits : ∀ lag ∈ lags, lag ≤ maxSignedInt64) :
    ∃ h : Histogram, Histogram.ofLags lags = .ok h ∧
      ((∃ s, h.snapshot = .ok s) ↔ lags.length ≤ maxSignedInt64) ∧
      ∀ s, h.snapshot = .ok s → s.Reports lags ∧
        Models.validateHistogramFields s.bucketCounts s.sampleCount s.lagP50Ns s.lagP95Ns
          s.lagP99Ns s.lagMaxNs = .ok () := by
  obtain ⟨h, hadd, hd⟩ := Histogram.exists_ofLags hfits
  refine ⟨h, hadd, ⟨?_, ?_⟩, fun s hs =>
    ⟨hd.reports hne hs, validateFields_eq_ok.mpr (hd.fieldsAgree hs)⟩⟩
  · rintro ⟨s, hs⟩
    by_contra hn
    rw [hd.snapshot_error (by omega)] at hs
    cases hs
  · intro hn
    obtain ⟨s, hs, -⟩ := hd.snapshot hn
    exact ⟨s, hs⟩

theorem threeLags_report : ∃ h : Histogram, Histogram.ofLags [0, 100000, 100001] = .ok h ∧
      ((∃ s, h.snapshot = .ok s) ↔ [0, 100000, 100001].length ≤ maxSignedInt64) ∧
      ∀ s, h.snapshot = .ok s → s.Reports [0, 100000, 100001] ∧
        Models.validateHistogramFields s.bucketCounts s.sampleCount s.lagP50Ns s.lagP95Ns
          s.lagP99Ns s.lagMaxNs = .ok () :=
  snapshot_reports [0, 100000, 100001] (by decide) (by decide)

/-- `2 ^ 63` lags are added without an error, and then the snapshot raises one. -/
theorem snapshot_raises_of_tooMany : ¬ ∀ lags : List Nat, lags ≠ [] →
    (∀ lag ∈ lags, lag ≤ maxSignedInt64) → ∃ (h : Histogram) (s : HistogramSnapshot),
      Histogram.ofLags lags = .ok h ∧ h.snapshot = .ok s := by
  intro hall
  have hfits : ∀ lag ∈ List.replicate (maxSignedInt64 + 1) 0, lag ≤ maxSignedInt64 := by
    intro lag hlag
    rw [List.eq_of_mem_replicate hlag]
    exact Nat.zero_le _
  have hne : List.replicate (maxSignedInt64 + 1) 0 ≠ [] := by
    rw [Ne, List.replicate_eq_nil_iff]
    exact Nat.succ_ne_zero _
  obtain ⟨h, s, hadd, hs⟩ := hall _ hne hfits
  obtain ⟨h', hadd', hd⟩ := Histogram.exists_ofLags hfits
  obtain rfl : h = h' := Except.ok.inj (hadd.symm.trans hadd')
  have hlength : maxSignedInt64 < (List.replicate (maxSignedInt64 + 1) 0).length := by
    rw [List.length_replicate]
    exact Nat.lt_succ_self _
  rw [hd.snapshot_error hlength] at hs
  cases hs

end CryptoCollector.Storage
