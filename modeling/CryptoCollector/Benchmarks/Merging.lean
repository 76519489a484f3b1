import CryptoCollector.Storage.Quantiles
import Mathlib.Algebra.BigOperators.Group.List.Lemmas

/-!
# Merged histograms

The buckets of several histograms, added bucket by bucket, with the sum of their samples and the
greatest of their maxima.

* `exists_fieldsAgree_bucketSums`: the merged fields agree when the fields of each histogram do.
* `exists_ofLags_flatten`: the merged fields are those of one histogram of all lags.
-/

namespace CryptoCollector.Benchmarks

open Lib Storage

/-- The sums of the buckets with the same index. -/
def bucketSums (counts : List (List Nat)) : List Nat :=
  (List.range bucketCount).map fun index => (counts.map fun c => c.getD index 0).sum

theorem length_bucketSums (counts : List (List Nat)) :
    (bucketSums counts).length = bucketCount := by
  rw [bucketSums, List.length_map, List.length_range]

theorem getD_of_length_le {counts : List Nat} {index : Nat} (h : counts.length ≤ index) :
    counts.getD index 0 = 0 := by
  simp [List.getD_eq_getElem?_getD, h]

section Sums

variable {counts : List (List Nat)} (hlength : ∀ c ∈ counts, c.length = bucketCount)

include hlength

theorem getD_bucketSums (index : Nat) :
    (bucketSums counts).getD index 0 = (counts.map fun c => c.getD index 0).sum := by
  by_cases hindex : index < bucketCount
  · simp [bucketSums, List.getD_eq_getElem?_getD, hindex]
  · have hzero : ∀ n ∈ counts.map fun c => c.getD index 0, n = 0 := by
      rw [List.forall_mem_map]
      intro c hc
      exact getD_of_length_le ((hlength c hc).trans_le (not_lt.mp hindex))
    rw [getD_of_length_le ((length_bucketSums counts).trans_le (not_lt.mp hindex)),
      List.sum_eq_zero hzero]

theorem sum_bucketSums : (bucketSums counts).sum = (counts.map List.sum).sum := by
  induction counts with
  | nil => simp [bucketSums]
  | cons c counts ih =>
    obtain ⟨hc, hcounts⟩ := List.forall_mem_cons.mp hlength
    have hrange : (List.range bucketCount).map (fun index => c.getD index 0) = c := by
      apply List.ext_getElem
      · rw [List.length_map, List.length_range, hc]
      · intro i hi hi'
        simp [List.getD_eq_getElem?_getD, hi']
    rw [List.map_cons, List.sum_cons, ← ih hcounts, bucketSums, bucketSums]
    simp only [List.map_cons, List.sum_cons]
    rw [List.sum_map_add, hrange]

end Sums

/-! ## The merged fields agree -/

/-- The highest nonempty bucket. -/
theorem highestNonempty_eq_some_iff {counts : List Nat} {k : Nat} :
    highestNonempty counts = some k ↔
      counts.getD k 0 ≠ 0 ∧ ∀ i, k < i → counts.getD i 0 = 0 := by
  constructor
  · intro h
    obtain ⟨init, hinit⟩ := List.getLast?_eq_some_iff.mp h
    have hmem {i : Nat} : i ∈ init ++ [k] ↔ counts.getD i 0 ≠ 0 := by
      rw [← hinit, List.mem_filter, List.mem_range, decide_eq_true_eq, and_iff_right_iff_imp]
      exact fun hne => not_le.mp fun hle => hne (getD_of_length_le hle)
    have hsorted : (init ++ [k]).Pairwise (· < ·) :=
      hinit ▸ List.pairwise_lt_range.filter _
    refine ⟨hmem.mp (by simp), fun i hlt => not_not.mp fun hne => ?_⟩
    rcases List.mem_append.mp (hmem.mpr hne) with hi | hi
    · have := (List.pairwise_append.mp hsorted).2.2 i hi k List.mem_cons_self
      omega
    · rw [List.mem_singleton.mp hi] at hlt
      exact lt_irrefl _ hlt
  · rintro ⟨hne, habove⟩
    refine getLast?_filter_range (not_le.mp fun hle => hne (getD_of_length_le hle)) ?_ ?_
    · simpa using hne
    · intro i hi
      simpa using habove i hi

/-- A lag of a lower bucket is smaller. -/
theorem lt_of_inBucket {i j a b : Nat} (ha : inBucket i a = true) (hb : inBucket j b = true)
    (hij : i < j) (hj : j < bucketCount) : a < b := by
  simp only [inBucket, Bool.and_eq_true, Bool.or_eq_true, decide_eq_true_eq] at ha hb
  have hmono : upperBound i ≤ upperBound (j - 1) := upperBound_mono (by omega) (by omega)
  have hlow : upperBound (j - 1) < b := hb.1.resolve_left (by omega)
  exact (ha.2.trans hmono).trans_lt hlow

theorem lt_of_highestNonempty {counts : List Nat} {k : Nat} (h : highestNonempty counts = some k) :
    k < counts.length :=
  not_le.mp fun hle => (highestNonempty_eq_some_iff.mp h).1 (getD_of_length_le hle)

/-- The greatest of some maxima. -/
theorem maximum_eq_some_iff {maxima : List (Option Nat)} {m : Nat} :
    Storage.maximum maxima = some m ↔ some m ∈ maxima ∧ ∀ n, some n ∈ maxima → n ≤ m := by
  simp only [Storage.maximum, List.max?_eq_some_iff, List.mem_filterMap, id, exists_eq_right]

theorem exists_maximum {maxima : List (Option Nat)} {m : Nat} (hm : some m ∈ maxima) :
    ∃ n, Storage.maximum maxima = some n := by
  have hne : maxima.filterMap id ≠ [] :=
    List.ne_nil_of_mem (List.mem_filterMap.mpr ⟨some m, hm, rfl⟩)
  exact Option.isSome_iff_exists.mp (List.isSome_max?_of_ne_nil hne)

theorem sum_ne_zero_of_getD {counts : List Nat} {index : Nat} (h : counts.getD index 0 ≠ 0) :
    counts.sum ≠ 0 := by
  intro hsum
  have hlt : index < counts.length := not_le.mp fun hle => h (getD_of_length_le hle)
  have hzero := List.sum_eq_zero_iff.mp hsum _ (List.getElem_mem hlt)
  rw [List.getD_eq_getElem?_getD, List.getElem?_eq_getElem hlt] at h
  exact h hzero

/-- A histogram of which the fields agree. -/
abbrev HistogramAgrees (s : HistogramSnapshot) : Prop :=
  FieldsAgree s.bucketCounts s.sampleCount s.lagP50Ns s.lagP95Ns s.lagP99Ns s.lagMaxNs

variable {snapshots : List HistogramSnapshot}

/-- The greatest maximum lies in the highest bucket that is nonempty in some histogram. -/
theorem inBucket_maximum (h : ∀ s ∈ snapshots, HistogramAgrees s) {s : HistogramSnapshot}
    (hs : s ∈ snapshots) (hne : s.sampleCount ≠ 0) :
    ∃ lag index, Storage.maximum (snapshots.map (·.lagMaxNs)) = some lag ∧
      highestNonempty (bucketSums (snapshots.map (·.bucketCounts))) = some index ∧
      inBucket index lag = true := by
  obtain ⟨m, -, hm, -⟩ := (h s hs).maximum hne
  obtain ⟨lag, hlag⟩ := exists_maximum (List.mem_map.mpr ⟨s, hs, hm⟩)
  obtain ⟨hmem, hle⟩ := maximum_eq_some_iff.mp hlag
  obtain ⟨t, ht, htlag⟩ := List.mem_map.mp hmem
  have htne : t.sampleCount ≠ 0 := fun h0 => by
    rw [(h t ht).empty h0] at htlag
    cases htlag
  obtain ⟨lag', index, hlag', hindex, hin⟩ := (h t ht).maximum htne
  obtain rfl : lag' = lag := Option.some.inj (hlag'.symm.trans htlag)
  refine ⟨lag', index, hlag, highestNonempty_eq_some_iff.mpr ?_, hin⟩
  have hlength : ∀ c ∈ snapshots.map (·.bucketCounts), c.length = bucketCount :=
    List.forall_mem_map.mpr fun s hs => (h s hs).length
  rw [getD_bucketSums hlength]
  constructor
  · have hpos := (highestNonempty_eq_some_iff.mp hindex).1
    intro hzero
    rw [List.sum_eq_zero_iff] at hzero
    exact hpos (hzero _ (List.mem_map_of_mem (List.mem_map_of_mem ht)))
  · intro i hi
    rw [getD_bucketSums hlength, List.sum_eq_zero_iff, List.map_map, List.forall_mem_map]
    intro u hu
    by_contra hune
    -- a histogram with a count above would have a greater maximum
    have hsum : u.sampleCount ≠ 0 := (h u hu).sum ▸ sum_ne_zero_of_getD hune
    obtain ⟨lag, k, hlagu, hk, hinu⟩ := (h u hu).maximum hsum
    have hik : i ≤ k := not_lt.mp fun hlt => hune ((highestNonempty_eq_some_iff.mp hk).2 i hlt)
    have hbound : k < bucketCount := (h u hu).length ▸ lt_of_highestNonempty hk
    have hlt := lt_of_inBucket hin hinu (hi.trans_le hik) hbound
    exact absurd (hle lag (List.mem_map.mpr ⟨u, hu, hlagu⟩)) (not_le.mpr hlt)

/-- The merged fields agree. -/
theorem exists_fieldsAgree_bucketSums (h : ∀ s ∈ snapshots, HistogramAgrees s) :
    ∃ p50 p95 p99, FieldsAgree (bucketSums (snapshots.map (·.bucketCounts)))
      (snapshots.map (·.sampleCount)).sum p50 p95 p99
      (Storage.maximum (snapshots.map (·.lagMaxNs))) := by
  have hlength : ∀ c ∈ snapshots.map (·.bucketCounts), c.length = bucketCount :=
    List.forall_mem_map.mpr fun s hs => (h s hs).length
  have hsum : (bucketSums (snapshots.map (·.bucketCounts))).sum =
      (snapshots.map (·.sampleCount)).sum := by
    rw [sum_bucketSums hlength, List.map_map]
    exact congrArg List.sum (List.map_congr_left fun s hs => (h s hs).sum)
  have hquantile (percent : Nat) (hle : percent ≤ 100) :=
    nearestRank_ok percent (length_bucketSums _) hsum hle
  obtain ⟨p50, h50⟩ := hquantile 50 (by decide)
  obtain ⟨p95, h95⟩ := hquantile 95 (by decide)
  obtain ⟨p99, h99⟩ := hquantile 99 (by decide)
  refine ⟨p50, p95, p99, length_bucketSums _, hsum, h50, h95, h99, fun h0 => ?_, fun hne => ?_⟩
  · rw [List.sum_eq_zero_iff, List.forall_mem_map] at h0
    rw [Storage.maximum, List.max?_eq_none_iff, List.filterMap_eq_nil_iff, List.forall_mem_map]
    exact fun s hs => (h s hs).empty (h0 s hs)
  · rw [Ne, List.sum_eq_zero_iff, List.forall_mem_map, not_forall] at hne
    obtain ⟨s, hs⟩ := hne
    rw [Classical.not_imp] at hs
    exact inBucket_maximum h hs.1 hs.2

/-! ## Histograms of all lags -/

/-- The fields of a histogram are those of a histogram to which some lags are added. -/
def HistogramHolds (s : HistogramSnapshot) (lags : List Nat) : Prop :=
  ∃ h : Histogram, Histogram.ofLags lags = .ok h ∧ s.bucketCounts = h.bucketCounts ∧
    s.sampleCount = h.sampleCount ∧ s.lagMaxNs = h.lagMaxNs

theorem of_tryAdd {h h' : Histogram} {lag : Nat} (hadd : h.tryAdd lag = .ok h') :
    lag ≤ maxSignedInt64 := by
  obtain ⟨n, hn, -⟩ := bind_eq_ok.mp hadd
  obtain ⟨heq, hle⟩ := statsInteger_eq_ok.mp hn
  exact (Int.ofNat.inj heq).trans_le hle

/-- The lags of a histogram fit it, and it describes them. -/
theorem describes_of_ofLags {lags : List Nat} {h : Histogram}
    (hadd : Histogram.ofLags lags = .ok h) : h.Describes lags := by
  have hfits (lags : List Nat) (h₀ : Histogram)
      (hadd : lags.foldlM (fun h (lag : Nat) => h.tryAdd lag) h₀ = .ok h) :
      ∀ lag ∈ lags, lag ≤ maxSignedInt64 := by
    induction lags generalizing h₀ with
    | nil => nofun
    | cons lag lags ih =>
      obtain ⟨h', hlag, hrest⟩ := bind_eq_ok.mp hadd
      exact List.forall_mem_cons.mpr ⟨of_tryAdd hlag, ih h' hrest⟩
  obtain ⟨h', hadd', hd⟩ := Histogram.exists_ofLags (hfits lags {} hadd)
  obtain rfl : h' = h := Except.ok.inj (hadd'.symm.trans hadd)
  exact hd

theorem maximum_map_max? (lags : List (List Nat)) :
    Storage.maximum (lags.map List.max?) = lags.flatten.max? := by
  apply Option.ext
  intro m
  rw [maximum_eq_some_iff, List.max?_eq_some_iff]
  simp only [List.mem_map, List.mem_flatten, forall_exists_index, and_imp]
  constructor
  · rintro ⟨⟨xs, hxs, hmax⟩, hle⟩
    refine ⟨⟨xs, hxs, (List.max?_eq_some_iff.mp hmax).1⟩, fun n ys hys hn => ?_⟩
    obtain ⟨k, hk, -, hnk⟩ := max?_eq_some_of_mem hn
    exact (hnk n hn).trans (hle k ys hys hk)
  · rintro ⟨⟨xs, hxs, hm⟩, hle⟩
    obtain ⟨k, hk, hmem, hmk⟩ := max?_eq_some_of_mem hm
    have hkm : k = m := le_antisymm (hle k xs hxs hmem) (hmk m hm)
    refine ⟨⟨xs, hxs, hkm ▸ hk⟩, fun n ys hys hn => ?_⟩
    exact hle n ys hys (List.max?_eq_some_iff.mp hn).1

theorem eq_of_getD {xs ys : List Nat} (hlength : xs.length = ys.length)
    (h : ∀ i, xs.getD i 0 = ys.getD i 0) : xs = ys := by
  refine List.ext_getElem hlength fun i hi hi' => ?_
  simpa [List.getD_eq_getElem?_getD, hi, hi'] using h i

/-- The merged fields are those of one histogram to which all lags are added. -/
theorem exists_ofLags_flatten {lags : List (List Nat)}
    (h : List.Forall₂ HistogramHolds snapshots lags) :
    ∃ h : Histogram, Histogram.ofLags lags.flatten = .ok h ∧
      bucketSums (snapshots.map (·.bucketCounts)) = h.bucketCounts ∧
      (snapshots.map (·.sampleCount)).sum = h.sampleCount ∧
      Storage.maximum (snapshots.map (·.lagMaxNs)) = h.lagMaxNs := by
  have hdescribes {s : HistogramSnapshot} {l : List Nat} (hs : HistogramHolds s l) :
      ∃ h : Histogram, h.Describes l ∧ s.bucketCounts = h.bucketCounts ∧
        s.sampleCount = h.sampleCount ∧ s.lagMaxNs = h.lagMaxNs := by
    obtain ⟨h, hadd, hfields⟩ := hs
    exact ⟨h, describes_of_ofLags hadd, hfields⟩
  have hfits : ∀ lag ∈ lags.flatten, lag ≤ maxSignedInt64 := by
    intro lag hlag
    obtain ⟨l, hl, hmem⟩ := List.mem_flatten.mp hlag
    obtain ⟨s, -, hs⟩ := exists_left_of_forall₂ h hl
    obtain ⟨h', hd, -⟩ := hdescribes hs
    exact hd.fits lag hmem
  have hlength : ∀ c ∈ snapshots.map (·.bucketCounts), c.length = bucketCount := by
    rw [List.forall_mem_map]
    intro s hs
    obtain ⟨l, -, hl⟩ := exists_right_of_forall₂ h hs
    obtain ⟨h', hd, hcounts, -⟩ := hdescribes hl
    exact hcounts ▸ hd.length
  obtain ⟨merged, hadd, hd⟩ := Histogram.exists_ofLags hfits
  refine ⟨merged, hadd, eq_of_getD ((length_bucketSums _).trans hd.length.symm) fun i => ?_, ?_, ?_⟩
  · rw [getD_bucketSums hlength, hd.counts, List.countP_flatten, List.map_map]
    refine congrArg List.sum (map_eq_of_forall₂ h fun s l hs => ?_).symm
    obtain ⟨h', hd', hcounts, -⟩ := hdescribes hs
    rw [Function.comp_apply, hcounts, hd'.counts]
  · rw [hd.samples, List.length_flatten]
    refine congrArg List.sum (map_eq_of_forall₂ h fun s l hs => ?_).symm
    obtain ⟨h', hd', -, hsamples, -⟩ := hdescribes hs
    rw [hsamples, hd'.samples]
  · rw [hd.max, ← maximum_map_max?]
    refine congrArg Storage.maximum (map_eq_of_forall₂ h fun s l hs => ?_).symm
    obtain ⟨h', hd', -, -, hmax⟩ := hdescribes hs
    rw [hmax, hd'.max]

end CryptoCollector.Benchmarks
