import CryptoCollector.Lib.Except
import CryptoCollector.Storage.Histogram

/-!
# What a histogram says about its lags

A histogram describes a list of lags (`Histogram.Describes`). The order of the lags does not
matter, a snapshot of such a histogram passes its own checks, and its quantiles exist.
-/

namespace CryptoCollector.Storage

/-! ## Buckets -/

/-- The upper bound of a bucket. -/
def upperBound (i : Nat) : Nat := bucketUpperBoundsNs.getD i 0

theorem upperBound_mono {i j : Nat} (h : i ≤ j) (hj : j < bucketCount) :
    upperBound i ≤ upperBound j := by
  have : ∀ j < bucketCount, ∀ i ≤ j, upperBound i ≤ upperBound j := by decide
  exact this j hj i h

/-- The binary search keeps its window around the least bucket that is not too small. -/
theorem bucketSearch_spec (lag : Nat) (fuel low high : Nat) (hf : high - low ≤ fuel)
    (hh : high ≤ bucketCount) (hlh : low ≤ high) (hlow : ∀ i < low, upperBound i < lag)
    (hhigh : high < bucketCount → lag ≤ upperBound high) :
    bucketSearch lag fuel low high ≤ bucketCount ∧
      (∀ i < bucketSearch lag fuel low high, upperBound i < lag) ∧
      (bucketSearch lag fuel low high < bucketCount →
        lag ≤ upperBound (bucketSearch lag fuel low high)) := by
  induction fuel generalizing low high with
  | zero =>
    have : low = high := by omega
    subst this
    exact ⟨hh, hlow, hhigh⟩
  | succ fuel ih =>
    unfold bucketSearch
    split
    · dsimp only
      split
      · rename_i hlt hm
        refine ih _ _ (by omega) hh (by omega) ?_ hhigh
        intro i hi
        have : upperBound i ≤ upperBound ((low + high) / 2) :=
          upperBound_mono (by omega) (by omega)
        exact Nat.lt_of_le_of_lt this hm
      · rename_i hlt hm
        exact ih _ _ (by omega) (by omega) (by omega) hlow fun _ => Nat.le_of_not_lt hm
    · have : low = high := by omega
      subst this
      exact ⟨hh, hlow, hhigh⟩

/-- A lag that fits the schema lies in its bucket. -/
theorem bucketIndex_spec {lag : Nat} (h : lag ≤ maxSignedInt64) :
    bucketIndex lag < bucketCount ∧ lag ≤ upperBound (bucketIndex lag) ∧
      ∀ i < bucketIndex lag, upperBound i < lag := by
  obtain ⟨hle, hbelow, habove⟩ := bucketSearch_spec lag bucketCount 0 bucketCount (by simp)
    (by simp) (by simp) (by simp) (by simp)
  have hlt : bucketIndex lag < bucketCount := by
    refine Nat.lt_of_le_of_ne hle ?_
    intro heq
    have := hbelow 21 (by change 21 < bucketIndex lag; simp [heq, bucketCount])
    have hb : upperBound 21 = maxSignedInt64 := by decide
    omega
  exact ⟨hlt, habove hlt, hbelow⟩

theorem bucketIndex_mono {a b : Nat} (hb : b ≤ maxSignedInt64) (h : a ≤ b) :
    bucketIndex a ≤ bucketIndex b := by
  by_contra hlt
  have ha := (bucketIndex_spec (h.trans hb)).2.2 (bucketIndex b) (by omega)
  have := (bucketIndex_spec hb).2.1
  omega

/-! ## Quantiles -/

theorem rankWalk_isSome (rank : Nat) (counts bounds : List Nat) (cumulative : Nat)
    (hlen : counts.length ≤ bounds.length) (hlow : cumulative < rank)
    (hhigh : rank ≤ cumulative + counts.sum) :
    (rankWalk rank cumulative bounds counts).isSome := by
  induction counts generalizing bounds cumulative with
  | nil => simp at hhigh; omega
  | cons c counts ih =>
    cases bounds with
    | nil => simp at hlen
    | cons b bounds =>
      unfold rankWalk
      split
      · rfl
      · refine ih _ _ (by simpa using hlen) (by omega) ?_
        simp only [List.sum_cons] at hhigh
        omega

/-- Quantiles exist when the buckets add up to the samples. -/
theorem nearestRank_ok {counts : List Nat} {samples : Nat} (numerator : Nat)
    (hlen : counts.length = bucketCount) (hsum : counts.sum = samples)
    (hn : numerator ≤ 100) : ∃ q, nearestRank counts samples numerator = .ok q := by
  unfold nearestRank
  split
  · exact ⟨none, rfl⟩
  · rename_i hs
    have hr : max 1 ((numerator * samples + 99) / 100) ≤ samples := by
      have : numerator * samples ≤ 100 * samples := Nat.mul_le_mul_right _ hn
      omega
    have := rankWalk_isSome (max 1 ((numerator * samples + 99) / 100)) counts
      bucketUpperBoundsNs 0 (by simp [hlen, bucketCount, bucketUpperBoundsNs]) (by omega)
      (by omega)
    obtain ⟨b, hb⟩ := Option.isSome_iff_exists.mp this
    rw [hb]
    exact ⟨some b, rfl⟩

/-! ## Histograms -/

theorem sum_modify_succ {l : List Nat} {i : Nat} (h : i < l.length) :
    (l.modify i (· + 1)).sum = l.sum + 1 := by
  induction l generalizing i with
  | nil => simp at h
  | cons a l ih =>
    cases i with
    | zero =>
      simp
      omega
    | succ i =>
      simp only [List.modify_succ_cons, List.sum_cons]
      rw [ih (by simpa using h)]
      omega

theorem max?_concat (l : List Nat) (a : Nat) :
    (l ++ [a]).max? = some (match l.max? with
      | none => a
      | some m => max m a) := by
  cases l with
  | nil => simp
  | cons b l =>
    rw [List.cons_append, List.max?_cons', List.max?_cons', List.foldl_append]
    rfl

theorem getLast?_filter_range {n k : Nat} {q : Nat → Bool} (hk : k < n) (hq : q k = true)
    (habove : ∀ i, k < i → q i = false) : ((List.range n).filter q).getLast? = some k := by
  induction n with
  | zero => omega
  | succ n ih =>
    rw [List.range_succ, List.filter_append]
    by_cases hn : k = n
    · subst hn
      simp [hq]
    · have : q n = false := habove n (by omega)
      simpa [this] using ih (by omega)

namespace Histogram

/-- A histogram describes the lags that were added to it. -/
structure Describes (h : Histogram) (lags : List Nat) : Prop where
  fits : ∀ l ∈ lags, l ≤ maxSignedInt64
  length : h.bucketCounts.length = bucketCount
  counts : ∀ i, h.bucketCounts.getD i 0 = lags.countP (bucketIndex · = i)
  sum : h.bucketCounts.sum = lags.length
  samples : h.sampleCount = lags.length
  total : h.lagTotalNs = lags.sum
  max : h.lagMaxNs = lags.max?

theorem describes_nil : Describes {} [] where
  fits := by simp
  length := by simp
  counts i := by simp [List.getD_eq_getElem?_getD, List.getElem?_replicate]; split <;> simp
  sum := by simp
  samples := rfl
  total := rfl
  max := rfl

theorem Describes.add {h : Histogram} {lags : List Nat} (hd : h.Describes lags) {lag : Nat}
    (hl : lag ≤ maxSignedInt64) : (h.add lag).Describes (lags ++ [lag]) where
  fits l hm := by
    rcases List.mem_append.mp hm with hm | hm
    · exact hd.fits l hm
    · simp at hm
      omega
  length := by simp [Histogram.add, hd.length]
  counts i := by
    have hi : bucketIndex lag < h.bucketCounts.length := hd.length ▸ (bucketIndex_spec hl).1
    have := hd.counts i
    simp only [Histogram.add, List.countP_append, ← this, List.getD_eq_getElem?_getD,
      List.getElem?_modify]
    by_cases hb : bucketIndex lag = i
    · subst hb
      simp [hi]
    · simp [hb]
  sum := by
    rw [Histogram.add, sum_modify_succ (hd.length ▸ (bucketIndex_spec hl).1), hd.sum]
    simp
  samples := by simp [Histogram.add, hd.samples]
  total := by simp [Histogram.add, hd.total]
  max := by rw [max?_concat, ← hd.max]; rfl

theorem Describes.addAll {h : Histogram} {lags more : List Nat} (hd : h.Describes lags)
    (hl : ∀ l ∈ more, l ≤ maxSignedInt64) : (h.addAll more).Describes (lags ++ more) := by
  induction more generalizing h lags with
  | nil => simpa [Histogram.addAll] using hd
  | cons a more ih =>
    have := ih (hd.add (hl a List.mem_cons_self)) fun l hm => hl l (List.mem_cons_of_mem _ hm)
    simpa [Histogram.addAll] using this

theorem max?_perm {l l' : List Nat} (h : l.Perm l') : l.max? = l'.max? := by
  apply Option.ext
  intro a
  simp only [List.max?_eq_some_iff, h.mem_iff]

/-- The order of the lags does not matter. -/
theorem Describes.eq_of_perm {h h' : Histogram} {lags lags' : List Nat} (hd : h.Describes lags)
    (hd' : h'.Describes lags') (hp : lags.Perm lags') : h = h' := by
  have hc : h.bucketCounts = h'.bucketCounts := by
    apply List.ext_getElem
    · rw [hd.length, hd'.length]
    · intro i hi hi'
      have := (hd.counts i).trans ((hp.countP_eq _).trans (hd'.counts i).symm)
      simpa [List.getD_eq_getElem?_getD, hi, hi'] using this
  have hs : h.sampleCount = h'.sampleCount := by rw [hd.samples, hd'.samples, hp.length_eq]
  have ht : h.lagTotalNs = h'.lagTotalNs := by rw [hd.total, hd'.total, hp.sum_eq]
  have hm : h.lagMaxNs = h'.lagMaxNs := by rw [hd.max, hd'.max, max?_perm hp]
  cases h
  cases h'
  simp_all

/-- The highest nonempty bucket is that of the maximum. -/
theorem Describes.highestNonempty {h : Histogram} {lags : List Nat} (hd : h.Describes lags)
    {m : Nat} (hm : lags.max? = some m) :
    highestNonempty h.bucketCounts = some (bucketIndex m) := by
  obtain ⟨hmem, hle⟩ := List.max?_eq_some_iff.mp hm
  have hfit := hd.fits m hmem
  have hpos (i : Nat) : h.bucketCounts.getD i 0 ≠ 0 ↔ ∃ l ∈ lags, bucketIndex l = i := by
    rw [hd.counts i, ← Nat.pos_iff_ne_zero, List.countP_pos_iff]
    simp
  unfold CryptoCollector.Storage.highestNonempty
  refine getLast?_filter_range (hd.length ▸ (bucketIndex_spec hfit).1) ?_ ?_
  · simpa using (hpos _).mpr ⟨m, hmem, rfl⟩
  · intro i hi
    have : ¬ h.bucketCounts.getD i 0 ≠ 0 := by
      rw [hpos]
      rintro ⟨l, hl, rfl⟩
      have := bucketIndex_mono hfit (hle l hl)
      omega
    simpa using this

/-- The snapshot of a histogram that describes at most `2 ^ 63 - 1` lags. -/
theorem Describes.snapshot {h : Histogram} {lags : List Nat} (hd : h.Describes lags)
    (hn : lags.length ≤ maxSignedInt64) : ∃ s, h.snapshot = .ok s ∧
      s.bucketCounts = h.bucketCounts ∧ s.sampleCount = lags.length ∧ s.lagMaxNs = lags.max? ∧
      nearestRank h.bucketCounts lags.length 50 = .ok s.lagP50Ns ∧
      nearestRank h.bucketCounts lags.length 95 = .ok s.lagP95Ns ∧
      nearestRank h.bucketCounts lags.length 99 = .ok s.lagP99Ns := by
  obtain ⟨p50, h50⟩ := nearestRank_ok 50 hd.length hd.sum (by simp)
  obtain ⟨p95, h95⟩ := nearestRank_ok 95 hd.length hd.sum (by simp)
  obtain ⟨p99, h99⟩ := nearestRank_ok 99 hd.length hd.sum (by simp)
  refine ⟨⟨h.bucketCounts, lags.length, lags.sum, p50, p95, p99, lags.max?⟩, ?_, rfl, rfl, rfl,
    h50, h95, h99⟩
  have hcheck : (⟨h.bucketCounts, lags.length, lags.sum, p50, p95, p99, lags.max?⟩ :
      HistogramSnapshot).check = .ok () := by
    have hn' : ¬ maxSignedInt64 < lags.length := by omega
    simp only [HistogramSnapshot.check, hd.length, hd.sum, h50, h95, h99, hn', ne_eq,
      not_true_eq_false, ↓reduceIte, bind, Except.bind]
    cases hm : lags.max? with
    | none =>
      have : lags = [] := by simpa using hm
      simp [this, pure, Except.pure]
    | some m =>
      obtain ⟨hmem, hle⟩ := List.max?_eq_some_iff.mp hm
      have h1 : ¬ maxSignedInt64 < m := Nat.not_lt.mpr (hd.fits m hmem)
      have h2 : ¬ lags.length = 0 := by
        intro h0
        simp [List.length_eq_zero_iff.mp h0] at hmem
      have h3 : ¬ lags.sum < m := Nat.not_lt.mpr (List.single_le_sum (by simp) m hmem)
      have h4 := hd.highestNonempty hm
      simp only [h1, h2, h3, h4, not_true_eq_false, ↓reduceIte]
      rfl
  simp only [Histogram.snapshot, snapshotOf, hd.samples, hd.total, hd.max, h50, h95, h99]
  simp only [bind, Except.bind, hcheck]
  rfl

/-- A snapshot of more lags than a signed 64-bit integer counts is refused. -/
theorem Describes.snapshot_error {h : Histogram} {lags : List Nat} (hd : h.Describes lags)
    (hn : maxSignedInt64 < lags.length) : h.snapshot =
      .error (.valueError "sample_count must fit a signed 64-bit integer") := by
  obtain ⟨p50, h50⟩ := nearestRank_ok 50 hd.length hd.sum (by simp)
  obtain ⟨p95, h95⟩ := nearestRank_ok 95 hd.length hd.sum (by simp)
  obtain ⟨p99, h99⟩ := nearestRank_ok 99 hd.length hd.sum (by simp)
  simp only [Histogram.snapshot, snapshotOf, hd.samples, hd.total, hd.max, h50, h95, h99]
  simp only [bind, Except.bind, HistogramSnapshot.check, hd.length, ne_eq, not_true_eq_false,
    ↓reduceIte, hn]
  rfl

/-- A snapshot has the counters of the histogram and its quantiles. -/
theorem exists_of_snapshot {h : Histogram} {s : HistogramSnapshot} (hs : h.snapshot = .ok s) :
    ∃ p50 p95 p99, nearestRank h.bucketCounts h.sampleCount 50 = .ok p50 ∧
      nearestRank h.bucketCounts h.sampleCount 95 = .ok p95 ∧
      nearestRank h.bucketCounts h.sampleCount 99 = .ok p99 ∧
      s = ⟨h.bucketCounts, h.sampleCount, h.lagTotalNs, p50, p95, p99, h.lagMaxNs⟩ := by
  unfold Histogram.snapshot snapshotOf at hs
  obtain ⟨p50, h50, hs⟩ := Lib.bind_eq_ok.mp hs
  obtain ⟨p95, h95, hs⟩ := Lib.bind_eq_ok.mp hs
  obtain ⟨p99, h99, hs⟩ := Lib.bind_eq_ok.mp hs
  obtain ⟨-, -, hs⟩ := Lib.bind_eq_ok.mp hs
  exact ⟨p50, p95, p99, h50, h95, h99, (Except.ok.inj hs).symm⟩

/-- What a snapshot reports. -/
theorem snapshot_ok {h : Histogram} {s : HistogramSnapshot} (hs : h.snapshot = .ok s) :
    s.sampleCount = h.sampleCount ∧ s.lagMaxNs = h.lagMaxNs ∧
      nearestRank h.bucketCounts h.sampleCount 50 = .ok s.lagP50Ns ∧
      nearestRank h.bucketCounts h.sampleCount 95 = .ok s.lagP95Ns ∧
      nearestRank h.bucketCounts h.sampleCount 99 = .ok s.lagP99Ns := by
  obtain ⟨p50, p95, p99, h50, h95, h99, rfl⟩ := exists_of_snapshot hs
  exact ⟨rfl, rfl, h50, h95, h99⟩

/-- A snapshot has the counters of the histogram. -/
theorem snapshot_counters {h : Histogram} {s : HistogramSnapshot} (hs : h.snapshot = .ok s) :
    s.bucketCounts = h.bucketCounts ∧ s.lagTotalNs = h.lagTotalNs := by
  obtain ⟨p50, p95, p99, -, -, -, rfl⟩ := exists_of_snapshot hs
  exact ⟨rfl, rfl⟩

end Histogram

/-! ## Quantiles -/

theorem mem_of_rankWalk {rank cumulative b : Nat} {bounds counts : List Nat}
    (h : rankWalk rank cumulative bounds counts = some b) : b ∈ bounds := by
  induction bounds generalizing cumulative counts with
  | nil => simp [rankWalk] at h
  | cons bound bounds ih =>
    cases counts with
    | nil => simp [rankWalk] at h
    | cons count counts =>
      rw [rankWalk] at h
      split_ifs at h with hrank
      · simp_all
      · exact List.mem_cons_of_mem _ (ih h)

theorem rankWalk_mono {rank rank' : Nat} (hle : rank ≤ rank') {bounds counts : List Nat}
    (hsorted : bounds.Pairwise (· ≤ ·)) {cumulative b b' : Nat}
    (hb : rankWalk rank cumulative bounds counts = some b)
    (hb' : rankWalk rank' cumulative bounds counts = some b') : b ≤ b' := by
  induction bounds generalizing cumulative counts with
  | nil => simp [rankWalk] at hb
  | cons bound bounds ih =>
    cases counts with
    | nil => simp [rankWalk] at hb
    | cons count counts =>
      obtain ⟨hbound, hrest⟩ := List.pairwise_cons.1 hsorted
      rw [rankWalk] at hb hb'
      split_ifs at hb hb' with hr hr' hr'
      · simp_all
      · obtain rfl : bound = b := by simpa using hb
        exact hbound _ (mem_of_rankWalk hb')
      · omega
      · exact ih hrest hb hb'

/-- A higher quantile lies in the same bucket or in a higher one. -/
theorem nearestRank_mono {counts : List Nat} {samples k k' b b' : Nat} (hle : k ≤ k')
    (hb : nearestRank counts samples k = .ok (some b))
    (hb' : nearestRank counts samples k' = .ok (some b')) : b ≤ b' := by
  have hrank : max 1 ((k * samples + 99) / 100) ≤ max 1 ((k' * samples + 99) / 100) := by
    have := Nat.mul_le_mul_right samples hle
    omega
  unfold nearestRank at hb hb'
  split_ifs at hb hb'
  · simp at hb
  · split at hb
    · next hwalk =>
      split at hb'
      · next hwalk' =>
        simp only [Except.ok.injEq, Option.some.injEq] at hb hb'
        subst hb hb'
        exact rankWalk_mono hrank (by decide) hwalk hwalk'
      · simp at hb'
    · simp at hb

/-- There is no quantile only when there is no sample. -/
theorem nearestRank_isSome {counts : List Nat} {samples k : Nat} {q : Option Nat}
    (hs : samples ≠ 0) (h : nearestRank counts samples k = .ok q) : ∃ b, q = some b := by
  unfold nearestRank at h
  rw [if_neg hs] at h
  split at h
  · simp only [Except.ok.injEq] at h
    exact ⟨_, h.symm⟩
  · simp at h

end CryptoCollector.Storage
