import CryptoCollector.Lib.Effect
import CryptoCollector.Lib.Sorting
import CryptoCollector.Storage.Lags

/-!
# The rolling histogram

`storage/stats.py: RollingDurabilityHistogram`. Sixty slots are used again and again: a sample
goes to the slot of its second modulo sixty, a slot is cleared when its second leaves the window,
and a late sample is dropped when its second has left it.

* `Tracks`: what the slots hold of the samples that were added.
* `Tracks.advance`, `Tracks.addToSlot`: clearing and reusing slots loses nothing of the window.
* `snapshot_exact`: a snapshot reports the samples of its window.
-/

namespace CryptoCollector.Storage

open Lib

namespace Histogram

/-! ## Histograms of lists of lags -/

theorem Describes.of_perm {h : Histogram} {lags lags' : List Nat} (hd : h.Describes lags)
    (hp : lags.Perm lags') : h.Describes lags' where
  fits l hl := hd.fits l (hp.mem_iff.mpr hl)
  length := hd.length
  counts i := (hd.counts i).trans (hp.countP_eq _)
  sum := hd.sum.trans hp.length_eq
  samples := hd.samples.trans hp.length_eq
  total := hd.total.trans hp.sum_eq
  max := hd.max.trans (max?_perm hp)

theorem sum_zipWith_add {xs ys : List Nat} (h : xs.length = ys.length) :
    (List.zipWith (· + ·) xs ys).sum = xs.sum + ys.sum := by
  induction xs generalizing ys with
  | nil =>
    cases ys with
    | nil => rfl
    | cons y ys => cases h
  | cons x xs ih =>
    cases ys with
    | nil => cases h
    | cons y ys =>
      rw [List.zipWith_cons_cons, List.sum_cons, List.sum_cons, List.sum_cons,
        ih (Nat.succ.inj h)]
      omega

/-- The maximum of two lists. -/
theorem max?_append (xs ys : List Nat) : (xs ++ ys).max? = match xs.max?, ys.max? with
    | some a, some b => some (max a b)
    | some a, none => some a
    | none, b => b := by
  induction ys using List.reverseRecOn with
  | nil =>
    rw [List.append_nil]
    cases xs.max? <;> simp
  | append_singleton ys y ih =>
    rw [← List.append_assoc, max?_concat, max?_concat, ih]
    cases xs.max? <;> cases ys.max? <;> simp [max_assoc]

/-- The sums that `snapshot` builds from two histograms. -/
theorem Describes.merge {h h' : Histogram} {lags lags' : List Nat} (hd : h.Describes lags)
    (hd' : h'.Describes lags') :
    Describes
      { bucketCounts := List.zipWith (· + ·) h.bucketCounts h'.bucketCounts
        sampleCount := h.sampleCount + h'.sampleCount
        lagTotalNs := h.lagTotalNs + h'.lagTotalNs
        lagMaxNs := match h.lagMaxNs, h'.lagMaxNs with
          | some a, some b => some (Max.max a b)
          | some a, none => some a
          | none, b => b } (lags ++ lags') where
  fits l hl := (List.mem_append.mp hl).elim (hd.fits l) (hd'.fits l)
  length := by simp [hd.length, hd'.length]
  counts i := by
    have hi := hd.counts i
    have hi' := hd'.counts i
    rw [List.countP_append, ← hi, ← hi']
    simp only [List.getD_eq_getElem?_getD, List.getElem?_zipWith]
    by_cases hlt : i < bucketCount
    · simp [hd.length, hd'.length, hlt]
    · simp [hd.length, hd'.length, hlt]
  sum := by
    rw [sum_zipWith_add (hd.length.trans hd'.length.symm), hd.sum, hd'.sum, List.length_append]
  samples := by rw [hd.samples, hd'.samples, List.length_append]
  total := by rw [hd.total, hd'.total, List.sum_append]
  max := by
    rw [max?_append, hd.max, hd'.max]

/-- The bucket counts, bucket by bucket. -/
theorem Describes.bucketCounts {h : Histogram} {lags : List Nat} (hd : h.Describes lags) :
    h.bucketCounts = (List.range bucketCount).map fun i => lags.countP (bucketIndex · = i) := by
  refine List.ext_getElem (by simp [hd.length]) fun i hi _ => ?_
  have hcount := hd.counts i
  rw [List.getD_eq_getElem?_getD, List.getElem?_eq_getElem hi, Option.getD_some] at hcount
  rw [hcount, List.getElem_map, List.getElem_range]

end Histogram

/-! ## Calls -/

/-- `_integer` of `stats.py`. -/
def statsInteger (value : Int) (fieldName : String) : Except Err Nat :=
  if value < 0 then .error (.valueError (fieldName ++ " must be non-negative"))
  else if (maxSignedInt64 : Int) < value then
    .error (.valueError (fieldName ++ " must fit a signed 64-bit integer"))
  else .ok value.toNat

theorem statsInteger_eq_ok {value : Int} {fieldName : String} {n : Nat} :
    statsInteger value fieldName = .ok n ↔ value = n ∧ n ≤ maxSignedInt64 := by
  unfold statsInteger
  split
  · simp only [reduceCtorEq, false_iff]
    omega
  · split
    · simp only [reduceCtorEq, false_iff]
      omega
    · rw [Except.ok.injEq]
      omega

theorem statsInteger_of_fits {value : Int} (h0 : 0 ≤ value) (hle : value ≤ maxSignedInt64)
    (fieldName : String) : statsInteger value fieldName = .ok value.toNat :=
  statsInteger_eq_ok.mpr ⟨(Int.toNat_of_nonneg h0).symm, by omega⟩

/-- A sample that has been added. -/
structure LagSample where
  lagNs : Nat
  completedNs : Nat
  deriving DecidableEq

/-- The second of its completion. -/
def LagSample.second (x : LagSample) : Nat := x.completedNs / nsPerSecond

namespace RollingHistogram

/-- A call of the histogram. -/
inductive Call where
  | add (lagNs syncCompletedMonotonicNs : Int)
  | snapshot (nowMonotonicNs : Int)

/-- `add` with the checks of its arguments. -/
def addChecked (lagNs syncCompletedMonotonicNs : Int) : Proc Err RollingHistogram := fun r =>
  match statsInteger lagNs "lag_ns" with
  | .error e => (some e, r)
  | .ok lag =>
    match statsInteger syncCompletedMonotonicNs "sync_completed_monotonic_ns" with
    | .error e => (some e, r)
    | .ok completed => (none, r.add lag completed)

/-- `snapshot` with the check of its argument. -/
def snapshotChecked (r : RollingHistogram) (nowMonotonicNs : Int) :
    RollingHistogram × Except Err HistogramSnapshot :=
  match statsInteger nowMonotonicNs "now_monotonic_ns" with
  | .error e => (r, .error e)
  | .ok now => r.snapshot now

/-- The histogram after a call, whether it raises or not. -/
def Call.exec (r : RollingHistogram) : Call → RollingHistogram
  | .add lagNs completed => (r.addChecked lagNs completed).2
  | .snapshot now => (r.snapshotChecked now).1

/-- The histogram after some calls. -/
def after (calls : List Call) : RollingHistogram := calls.foldl Call.exec {}

/-- The sample that a call adds, unless it raises. -/
def Call.sample? : Call → Option LagSample
  | .add lagNs completed =>
    if 0 ≤ lagNs ∧ lagNs ≤ maxSignedInt64 ∧ 0 ≤ completed ∧ completed ≤ maxSignedInt64 then
      some ⟨lagNs.toNat, completed.toNat⟩
    else none
  | .snapshot _ => none

/-- The lags of the samples whose second lies in the window. -/
def windowLags (current : Nat) (samples : List LagSample) : List Nat :=
  (samples.filter (inWindow current ·.second)).map (·.lagNs)

/-! ## What the slots hold -/

/-- The samples of the window that go to a slot. -/
def slotSamples (current : Nat) (samples : List LagSample) (i : Nat) : List LagSample :=
  samples.filter fun x => inWindow current x.second ∧ x.second % rollingSlotCount = i

/-- A slot holds its samples of the window; it is either empty or has their second. -/
structure Holds (current : Nat) (samples : List LagSample) (i : Nat) (slot : RollingSlot) : Prop
    where
  describes : slot.histogram.Describes ((slotSamples current samples i).map (·.lagNs))
  empty : slot.second = none → slotSamples current samples i = []
  second : ∀ second ∈ slot.second,
    second % rollingSlotCount = i ∧ inWindow current second = true

/-- The slots of a histogram hold the samples that were added, as far as the window reaches. -/
structure Tracks (r : RollingHistogram) (samples : List LagSample) : Prop where
  length : r.slots.length = rollingSlotCount
  fits : ∀ x ∈ samples, x.lagNs ≤ maxSignedInt64
  fresh : r.latestSecond = none → samples = [] ∧ ∀ slot ∈ r.slots, slot = {}
  seen : ∀ latest ∈ r.latestSecond, ∀ x ∈ samples, x.second ≤ latest
  holds : ∀ latest ∈ r.latestSecond, ∀ i slot, r.slots[i]? = some slot →
    Holds latest samples i slot

theorem tracks_new : Tracks {} [] where
  length := rfl
  fits := by simp
  fresh _ := ⟨rfl, fun slot hslot => List.eq_of_mem_replicate hslot⟩
  seen := by simp
  holds := by simp

theorem inWindow_iff {current second : Nat} :
    inWindow current second = true ↔ current ≤ second + 59 ∧ second ≤ current := by
  unfold inWindow
  rw [decide_eq_true_eq]
  exact Iff.rfl

/-- Two seconds of a window that share a slot are the same. -/
theorem eq_of_inWindow {current s t : Nat} (hs : inWindow current s = true)
    (ht : inWindow current t = true) (hmod : s % rollingSlotCount = t % rollingSlotCount) :
    s = t := by
  rw [inWindow_iff] at hs ht
  unfold rollingSlotCount at hmod
  omega

theorem mem_slotSamples {current i : Nat} {samples : List LagSample} {x : LagSample} :
    x ∈ slotSamples current samples i ↔
      x ∈ samples ∧ inWindow current x.second = true ∧ x.second % rollingSlotCount = i := by
  simp [slotSamples]

/-- When the window moves on, a slot keeps its samples if it keeps its second, and has none
otherwise. -/
theorem holds_advance {latest current i : Nat} {samples : List LagSample} {slot : RollingSlot}
    (h : Holds latest samples i slot) (hseen : ∀ x ∈ samples, x.second ≤ latest)
    (hle : latest ≤ current) :
    Holds current samples i (match slot.second with
      | some second => if inWindow current second then slot else {}
      | none => slot) := by
  -- a sample of the later window was one of the earlier one
  have hearlier : ∀ x ∈ slotSamples current samples i, x ∈ slotSamples latest samples i := by
    intro x hx
    rw [mem_slotSamples, inWindow_iff] at hx ⊢
    have := hseen x hx.1
    exact ⟨hx.1, ⟨by omega, this⟩, hx.2.2⟩
  cases hsecond : slot.second with
  | none =>
    have hnone : slotSamples current samples i = [] := by
      rw [List.eq_nil_iff_forall_not_mem]
      intro x hx
      have hmem := hearlier x hx
      rw [h.empty hsecond] at hmem
      cases hmem
    refine ⟨?_, fun _ => hnone, by simp [hsecond]⟩
    have hd := h.describes
    rw [h.empty hsecond] at hd
    rw [hnone]
    exact hd
  | some second =>
    obtain ⟨hmod, hin⟩ := h.second second hsecond
    have hown : ∀ x ∈ slotSamples latest samples i, x.second = second := by
      intro x hx
      obtain ⟨-, hx, hxi⟩ := mem_slotSamples.mp hx
      exact eq_of_inWindow hx hin (hxi.trans hmod.symm)
    dsimp only
    by_cases hkeep : inWindow current second = true
    · have hsame : slotSamples current samples i = slotSamples latest samples i := by
        refine List.filter_congr fun x hx => ?_
        rw [decide_eq_decide]
        constructor
        · exact fun hw => (mem_slotSamples.mp (hearlier x (mem_slotSamples.mpr ⟨hx, hw⟩))).2
        · intro hw
          have hxs := hown x (mem_slotSamples.mpr ⟨hx, hw⟩)
          exact ⟨hxs ▸ hkeep, hw.2⟩
      rw [if_pos hkeep]
      refine ⟨hsame ▸ h.describes, fun hnone => ?_, fun s hs => ?_⟩
      · rw [hsecond] at hnone
        cases hnone
      · rw [hsecond] at hs
        cases hs
        exact ⟨hmod, hkeep⟩
    · have hnone : slotSamples current samples i = [] := by
        rw [List.eq_nil_iff_forall_not_mem]
        intro x hx
        have hxs := hown x (hearlier x hx)
        exact hkeep (hxs ▸ (mem_slotSamples.mp hx).2.1)
      rw [if_neg hkeep]
      refine ⟨?_, fun _ => hnone, by simp⟩
      rw [hnone]
      exact Histogram.describes_nil

/-- Advancing the window loses nothing that is still in it. -/
theorem Tracks.advance {r : RollingHistogram} {samples : List LagSample} (h : Tracks r samples)
    {current : Nat} (hle : ∀ latest ∈ r.latestSecond, latest ≤ current) :
    Tracks (r.advance current) samples where
  length := (List.length_map _).trans h.length
  fits := h.fits
  fresh hnone := by cases hnone
  seen := by
    rintro _ ⟨⟩ x hx
    cases hlatest : r.latestSecond with
    | none =>
      rw [(h.fresh hlatest).1] at hx
      cases hx
    | some latest => exact (h.seen latest hlatest x hx).trans (hle latest hlatest)
  holds := by
    rintro _ ⟨⟩ i slot hslot
    simp only [RollingHistogram.advance, List.getElem?_map, Option.map_eq_some_iff] at hslot
    obtain ⟨old, hold, rfl⟩ := hslot
    cases hlatest : r.latestSecond with
    | none =>
      obtain ⟨rfl, hempty⟩ := h.fresh hlatest
      rw [hempty old (List.mem_of_getElem? hold)]
      exact ⟨Histogram.describes_nil, fun _ => rfl, by simp⟩
    | some latest =>
      exact holds_advance (h.holds latest hlatest i old hold) (h.seen latest hlatest)
        (hle latest hlatest)

theorem slotSamples_concat_of_mem {current i : Nat} {samples : List LagSample} {x : LagSample}
    (hin : inWindow current x.second = true) (hi : x.second % rollingSlotCount = i) :
    slotSamples current (samples ++ [x]) i = slotSamples current samples i ++ [x] := by
  simp [slotSamples, List.filter_append, hin, hi]

theorem slotSamples_concat_of_not_mem {current i : Nat} {samples : List LagSample} {x : LagSample}
    (h : ¬ (inWindow current x.second = true ∧ x.second % rollingSlotCount = i)) :
    slotSamples current (samples ++ [x]) i = slotSamples current samples i := by
  rw [slotSamples, List.filter_append, List.filter_cons_of_neg (by simpa using h), List.filter_nil,
    List.append_nil]
  rfl

/-- A slot that gets a sample of the window holds it; it is reset only when it holds nothing. -/
theorem Holds.add {current i : Nat} {samples : List LagSample} {slot : RollingSlot}
    (h : Holds current samples i slot) {x : LagSample} (hin : inWindow current x.second = true)
    (hi : x.second % rollingSlotCount = i) (hfits : x.lagNs ≤ maxSignedInt64) :
    let slot := if slot.second = some x.second then slot else { second := some x.second }
    Holds current (samples ++ [x]) i { slot with histogram := slot.histogram.add x.lagNs } := by
  dsimp only
  have hsecond : (if slot.second = some x.second then slot
      else { second := some x.second : RollingSlot }).second = some x.second := by
    split
    · assumption
    · rfl
  have hdescribes : (if slot.second = some x.second then slot
      else { second := some x.second : RollingSlot }).histogram.Describes
        ((slotSamples current samples i).map (·.lagNs)) := by
    split
    · exact h.describes
    · next hne =>
      -- another second of the window cannot be in this slot
      have hempty : slotSamples current samples i = [] := by
        cases hold : slot.second with
        | none => exact h.empty hold
        | some second =>
          obtain ⟨hmod, hold'⟩ := h.second second hold
          rw [hold, eq_of_inWindow hold' hin (hmod.trans hi.symm)] at hne
          exact absurd rfl hne
      rw [hempty]
      exact Histogram.describes_nil
  refine ⟨?_, fun hnone => ?_, fun s hs => ?_⟩
  · rw [slotSamples_concat_of_mem hin hi, List.map_append]
    exact hdescribes.add hfits
  · rw [hsecond] at hnone
    cases hnone
  · rw [hsecond] at hs
    cases hs
    exact ⟨hi, hin⟩

theorem Holds.skip {current i : Nat} {samples : List LagSample} {slot : RollingSlot}
    (h : Holds current samples i slot) {x : LagSample}
    (hx : ¬ (inWindow current x.second = true ∧ x.second % rollingSlotCount = i)) :
    Holds current (samples ++ [x]) i slot := by
  refine ⟨?_, ?_, h.second⟩
  · rw [slotSamples_concat_of_not_mem hx]
    exact h.describes
  · rw [slotSamples_concat_of_not_mem hx]
    exact h.empty

/-- A sample of the window goes to its slot. -/
theorem Tracks.addToSlot {r : RollingHistogram} {samples : List LagSample} (h : Tracks r samples)
    {latest : Nat} (hlatest : r.latestSecond = some latest) {x : LagSample}
    (hin : inWindow latest x.second = true) (hfits : x.lagNs ≤ maxSignedInt64) :
    Tracks (r.addToSlot x.second x.lagNs) (samples ++ [x]) where
  length := (List.length_modify ..).trans h.length
  fits y hy := by
    rcases List.mem_append.mp hy with hy | hy
    · exact h.fits y hy
    · rw [List.mem_singleton.mp hy]
      exact hfits
  fresh hnone := by
    change r.latestSecond = none at hnone
    rw [hlatest] at hnone
    cases hnone
  seen := by
    intro latest' hlatest' y hy
    change r.latestSecond = some latest' at hlatest'
    rw [hlatest] at hlatest'
    cases hlatest'
    rcases List.mem_append.mp hy with hy | hy
    · exact h.seen latest hlatest y hy
    · rw [List.mem_singleton.mp hy]
      exact (inWindow_iff.mp hin).2
  holds := by
    intro latest' hlatest' i slot hslot
    change r.latestSecond = some latest' at hlatest'
    rw [hlatest] at hlatest'
    cases hlatest'
    simp only [RollingHistogram.addToSlot, List.getElem?_modify, Option.map_eq_map,
      Option.map_eq_some_iff] at hslot
    obtain ⟨old, hold, hslot⟩ := hslot
    have holds := h.holds latest hlatest i old hold
    by_cases hi : x.second % rollingSlotCount = i
    · rw [if_pos hi] at hslot
      rw [← hslot]
      exact holds.add hin hi hfits
    · rw [if_neg hi] at hslot
      rw [← hslot]
      exact holds.skip fun hx => hi hx.2

/-- Every sample is added or has left the window for good. -/
theorem Tracks.add {r : RollingHistogram} {samples : List LagSample} (h : Tracks r samples)
    {x : LagSample} (hfits : x.lagNs ≤ maxSignedInt64) :
    Tracks (r.add x.lagNs x.completedNs) (samples ++ [x]) := by
  have hself : inWindow x.second x.second = true := inWindow_iff.mpr ⟨by omega, le_rfl⟩
  unfold RollingHistogram.add
  dsimp only
  cases hlatest : r.latestSecond with
  | none =>
    change Tracks ((r.advance x.second).addToSlot x.second x.lagNs) (samples ++ [x])
    have hadvance : Tracks (r.advance x.second) samples := h.advance (by simp [hlatest])
    exact hadvance.addToSlot rfl hself hfits
  | some latest =>
    change Tracks (if x.second + (rollingSlotCount - 1) < latest then r
      else if latest < x.second then (r.advance x.second).addToSlot x.second x.lagNs
      else r.addToSlot x.second x.lagNs) (samples ++ [x])
    split_ifs with hlate hnew
    · have hout : ¬ inWindow latest x.second = true := by
        rw [inWindow_iff]
        change x.second + 59 < latest at hlate
        omega
      refine ⟨h.length, fun y hy => ?_, fun hnone => ?_, fun latest' hlatest' y hy => ?_,
        fun latest' hlatest' i slot hslot => ?_⟩
      · rcases List.mem_append.mp hy with hy | hy
        · exact h.fits y hy
        · rw [List.mem_singleton.mp hy]
          exact hfits
      · rw [hlatest] at hnone
        cases hnone
      · rcases List.mem_append.mp hy with hy | hy
        · exact h.seen latest' hlatest' y hy
        · rw [hlatest] at hlatest'
          cases hlatest'
          rw [List.mem_singleton.mp hy]
          omega
      · have holds := h.holds latest' hlatest' i slot hslot
        rw [hlatest] at hlatest'
        cases hlatest'
        exact holds.skip fun hx => hout hx.1
    · have hadvance : Tracks (r.advance x.second) samples := h.advance (by
        intro latest' hlatest'
        rw [hlatest] at hlatest'
        cases hlatest'
        exact hnew.le)
      exact hadvance.addToSlot rfl hself hfits
    · refine h.addToSlot hlatest (inWindow_iff.mpr ⟨?_, not_lt.mp hnew⟩) hfits
      exact not_lt.mp hlate

/-- The latest second after a sample is one that was seen before or its own. -/
theorem latestSecond_add (r : RollingHistogram) (lag completed : Nat) :
    ∀ latest ∈ (r.add lag completed).latestSecond,
      latest ∈ r.latestSecond ∨ latest = completed / nsPerSecond := by
  intro latest hlatest
  unfold RollingHistogram.add at hlatest
  dsimp only at hlatest
  split at hlatest
  · exact .inr (Option.some.inj hlatest).symm
  · split_ifs at hlatest
    · exact .inl hlatest
    · exact .inr (Option.some.inj hlatest).symm
    · exact .inl hlatest

/-! ## Snapshots -/

/-- The sums over the slots are those of the samples that the slots hold. -/
theorem describes_collect {current : Nat} {samples : List LagSample} {slots : List RollingSlot}
    (h : ∀ i slot, slots[i]? = some slot → Holds current samples i slot) :
    (collect current slots).Describes ((List.range slots.length).flatMap fun i =>
      (slotSamples current samples i).map (·.lagNs)) := by
  induction slots using List.reverseRecOn with
  | nil => exact Histogram.describes_nil
  | append_singleton slots slot ih =>
    have hrest := ih fun i s hs => h i s <| by
      rw [List.getElem?_append_left (List.getElem?_eq_some_iff.mp hs).1]
      exact hs
    have hlast := h slots.length slot (by simp)
    have hcollect : collect current (slots ++ [slot]) = match slot.second with
        | some second =>
          if inWindow current second then
            { bucketCounts := List.zipWith (· + ·) (collect current slots).bucketCounts
                slot.histogram.bucketCounts
              sampleCount := (collect current slots).sampleCount + slot.histogram.sampleCount
              lagTotalNs := (collect current slots).lagTotalNs + slot.histogram.lagTotalNs
              lagMaxNs := match (collect current slots).lagMaxNs, slot.histogram.lagMaxNs with
                | some a, some b => some (max a b)
                | some a, none => some a
                | none, b => b }
          else collect current slots
        | none => collect current slots := by
      unfold collect
      rw [List.foldl_append]
      rfl
    rw [hcollect, List.length_append, List.length_singleton, List.range_succ, List.flatMap_append,
      List.flatMap_singleton]
    cases hsecond : slot.second with
    | none =>
      rw [hlast.empty hsecond, List.map_nil, List.append_nil]
      exact hrest
    | some second =>
      dsimp only
      rw [if_pos (hlast.second second hsecond).2]
      exact hrest.merge hlast.describes

/-- So a window that the slots track is described by their sums. -/
theorem Tracks.collect {r : RollingHistogram} {samples : List LagSample} (h : Tracks r samples)
    {current : Nat} (hlatest : r.latestSecond = some current) :
    (collect current r.slots).Describes (windowLags current samples) := by
  refine (describes_collect (h.holds current hlatest)).of_perm ?_
  have hgroups : ((List.range rollingSlotCount).flatMap fun i =>
      (samples.filter (inWindow current ·.second)).filter
        fun x => x.second % rollingSlotCount = i).Perm
      (samples.filter (inWindow current ·.second)) :=
    flatMap_filter_perm (fun x : LagSample => x.second % rollingSlotCount) List.nodup_range _
      fun x _ => List.mem_range.mpr (Nat.mod_lt _ (by decide))
  have hslots : ∀ i, slotSamples current samples i =
      (samples.filter (inWindow current ·.second)).filter
        fun x => x.second % rollingSlotCount = i := by
    intro i
    rw [List.filter_filter]
    refine List.filter_congr fun x _ => ?_
    rw [Bool.decide_and, Bool.decide_eq_true, Bool.and_comm]
  rw [h.length, windowLags]
  refine List.Perm.trans ?_ (hgroups.map _)
  rw [List.map_flatMap]
  simp only [hslots]
  exact List.Perm.refl _

/-- A snapshot moves the window on, unless the time goes backward, and sums up its slots. -/
theorem snapshot_cases {r : RollingHistogram} {samples : List LagSample} (h : Tracks r samples)
    {now : Nat} (hnow : now ≤ maxSignedInt64) :
    (∃ latest, r.latestSecond = some latest ∧ now / nsPerSecond < latest ∧
      r.snapshot now = (r, .error (.valueError "rolling histogram time must not move backward"))) ∨
    (∀ latest ∈ r.latestSecond, latest ≤ now / nsPerSecond) ∧
      ∃ r', Tracks r' samples ∧ r'.latestSecond = some (now / nsPerSecond) ∧
        r.snapshot now = (r', (RollingHistogram.collect (now / nsPerSecond) r'.slots).snapshot) := by
  unfold RollingHistogram.snapshot
  rw [if_neg (not_lt.mpr hnow)]
  dsimp only
  cases hlatest : r.latestSecond with
  | none =>
    have hforward : ∀ latest ∈ r.latestSecond, latest ≤ now / nsPerSecond := by simp [hlatest]
    exact .inr ⟨by simp, _, h.advance hforward, rfl, rfl⟩
  | some latest =>
    dsimp only
    by_cases hback : now / nsPerSecond < latest
    · rw [if_pos hback]
      exact .inl ⟨latest, rfl, hback, rfl⟩
    · rw [if_neg hback]
      have hle := not_lt.mp hback
      have hforward : ∀ latest ∈ r.latestSecond, latest ≤ now / nsPerSecond := by
        simpa [hlatest] using hle
      refine .inr ⟨by simpa using hle, _, ?_, ?_, rfl⟩
      · split
        · exact h.advance hforward
        · exact h
      · split
        · rfl
        · next heq => rw [hlatest, le_antisymm hle (not_lt.mp heq)]

/-- A snapshot keeps what the slots hold of its window, also when it fails. -/
theorem Tracks.snapshot {r : RollingHistogram} {samples : List LagSample} (h : Tracks r samples)
    (now : Nat) : Tracks (r.snapshot now).1 samples := by
  by_cases hnow : now ≤ maxSignedInt64
  · rcases snapshot_cases h hnow with ⟨_, -, -, hback⟩ | ⟨-, r', hr', -, hsnapshot⟩
    · rw [hback]
      exact h
    · rw [hsnapshot]
      exact hr'
  · unfold RollingHistogram.snapshot
    rw [if_pos (not_le.mp hnow)]
    exact h

/-- The latest second after a snapshot is one that was seen before or its own. -/
theorem latestSecond_snapshot (r : RollingHistogram) (now : Nat) :
    ∀ latest ∈ (r.snapshot now).1.latestSecond,
      latest ∈ r.latestSecond ∨ latest = now / nsPerSecond := by
  intro latest hlatest
  unfold RollingHistogram.snapshot at hlatest
  dsimp only at hlatest
  split at hlatest
  · exact .inl hlatest
  · split at hlatest
    · split at hlatest
      · exact .inl hlatest
      · dsimp only at hlatest
        split at hlatest
        · exact .inr (Option.some.inj hlatest).symm
        · exact .inl hlatest
    · exact .inr (Option.some.inj hlatest).symm

/-! ## Runs -/

theorem sample?_add {lagNs completed : Int} {lag c : Nat}
    (hlag : statsInteger lagNs "lag_ns" = .ok lag)
    (hcompleted : statsInteger completed "sync_completed_monotonic_ns" = .ok c) :
    Call.sample? (.add lagNs completed) = some ⟨lag, c⟩ ∧ lag ≤ maxSignedInt64 := by
  obtain ⟨rfl, hl⟩ := statsInteger_eq_ok.mp hlag
  obtain ⟨rfl, hc⟩ := statsInteger_eq_ok.mp hcompleted
  refine ⟨?_, hl⟩
  have hfits : 0 ≤ (lag : Int) ∧ (lag : Int) ≤ maxSignedInt64 ∧ 0 ≤ (c : Int) ∧
      (c : Int) ≤ maxSignedInt64 := by omega
  exact (if_pos hfits).trans (by rw [Int.toNat_natCast, Int.toNat_natCast])

theorem sample?_raises {lagNs completed : Int}
    (h : (∃ e, statsInteger lagNs "lag_ns" = .error e) ∨
      ∃ e, statsInteger completed "sync_completed_monotonic_ns" = .error e) :
    Call.sample? (.add lagNs completed) = none := by
  unfold Call.sample?
  refine if_neg fun hfits => ?_
  rcases h with ⟨e, he⟩ | ⟨e, he⟩
  · rw [statsInteger_of_fits hfits.1 hfits.2.1] at he
    cases he
  · rw [statsInteger_of_fits hfits.2.2.1 hfits.2.2.2] at he
    cases he

theorem Tracks.exec {r : RollingHistogram} {samples : List LagSample} (h : Tracks r samples)
    (call : Call) : Tracks (call.exec r) (samples ++ call.sample?.toList) := by
  cases call with
  | add lagNs completed =>
    simp only [Call.exec, addChecked]
    cases hlag : statsInteger lagNs "lag_ns" with
    | error e =>
      rw [sample?_raises (.inl ⟨e, hlag⟩), Option.toList_none, List.append_nil]
      exact h
    | ok lag =>
      cases hcompleted : statsInteger completed "sync_completed_monotonic_ns" with
      | error e =>
        rw [sample?_raises (.inr ⟨e, hcompleted⟩), Option.toList_none, List.append_nil]
        exact h
      | ok c =>
        obtain ⟨hsample, hfits⟩ := sample?_add hlag hcompleted
        rw [hsample]
        exact h.add (x := ⟨lag, c⟩) hfits
  | snapshot now =>
    have hsamples : samples ++ (Call.sample? (.snapshot now)).toList = samples :=
      List.append_nil samples
    rw [hsamples]
    simp only [Call.exec, snapshotChecked]
    cases hnow : statsInteger now "now_monotonic_ns" with
    | error e => exact h
    | ok n => exact h.snapshot n

/-- Whatever is called, the slots track the samples that were added. -/
theorem tracks_after (calls : List Call) : Tracks (after calls) (calls.filterMap Call.sample?) := by
  induction calls using List.reverseRecOn with
  | nil => exact tracks_new
  | append_singleton calls call ih =>
    have hstep := ih.exec call
    rw [after, List.foldl_append, List.filterMap_append]
    cases hsample : call.sample? with
    | none => simpa [hsample, after] using hstep
    | some x => simpa [hsample, after] using hstep

/-- After every sequence of calls, whether they raise or not, a snapshot at a time that is not
before a second it has seen reports the samples of its window, and nothing else: their buckets,
their number, their sum and their maximum. It fails only for a time that goes backward or is no
signed 64-bit integer, and for more samples than such an integer counts. -/
theorem snapshot_exact (calls : List Call) (now : Int) :
    let lags := windowLags (now.toNat / nsPerSecond) (calls.filterMap Call.sample?)
    ((∃ s, ((after calls).snapshotChecked now).2 = .ok s) ↔
      (0 ≤ now ∧ now ≤ maxSignedInt64) ∧
      (∀ latest ∈ (after calls).latestSecond, latest ≤ now.toNat / nsPerSecond) ∧
      lags.length ≤ maxSignedInt64) ∧
    ∀ s, ((after calls).snapshotChecked now).2 = .ok s →
      s.bucketCounts = (List.range bucketCount).map (fun i => lags.countP (bucketIndex · = i)) ∧
      s.sampleCount = lags.length ∧ s.lagTotalNs = lags.sum ∧ s.lagMaxNs = lags.max? := by
  dsimp only
  have htracks := tracks_after calls
  generalize calls.filterMap Call.sample? = samples at *
  generalize after calls = r at *
  unfold snapshotChecked
  cases hnow : statsInteger now "now_monotonic_ns" with
  | error e =>
    have hout : ¬ (0 ≤ now ∧ now ≤ maxSignedInt64) := by
      intro hin
      rw [statsInteger_of_fits hin.1 hin.2] at hnow
      cases hnow
    exact ⟨iff_of_false (by simp) fun h => hout h.1, by simp⟩
  | ok n =>
    obtain ⟨rfl, hn⟩ := statsInteger_eq_ok.mp hnow
    have hin : (0 : Int) ≤ n ∧ (n : Int) ≤ maxSignedInt64 := by omega
    rw [Int.toNat_natCast, and_iff_right hin]
    dsimp only
    rcases snapshot_cases htracks hn with
      ⟨latest, hlatest, hback, hsnapshot⟩ | ⟨hforward, r', hr', hlatest', hsnapshot⟩
    · rw [hsnapshot]
      refine ⟨iff_of_false (by simp) fun h => ?_, by simp⟩
      exact absurd (h.1 latest hlatest) (not_le.mpr hback)
    · rw [hsnapshot, and_iff_right hforward]
      have hd := hr'.collect hlatest'
      constructor
      · constructor
        · rintro ⟨s, hs⟩
          by_contra hlong
          dsimp only at hs
          rw [hd.snapshot_error (not_le.mp hlong)] at hs
          cases hs
        · intro hshort
          obtain ⟨s, hs, -⟩ := hd.snapshot hshort
          exact ⟨s, hs⟩
      · intro s hs
        obtain ⟨hcount, hmax, -⟩ := Histogram.snapshot_ok hs
        obtain ⟨hbuckets, htotal⟩ := Histogram.snapshot_counters hs
        exact ⟨hbuckets.trans hd.bucketCounts, hcount.trans hd.samples, htotal.trans hd.total,
          hmax.trans hd.max⟩

/-- One sample more than a signed 64-bit integer counts, all in one second. -/
def countless : List Call := List.replicate (maxSignedInt64 + 1) (.add 0 0)

theorem countless_snapshot_raises : ((after countless).snapshotChecked 0).2 =
    .error (.valueError "sample_count must fit a signed 64-bit integer") := by
  have hsamples : countless.filterMap Call.sample? =
      List.replicate (maxSignedInt64 + 1) ⟨0, 0⟩ := by
    rw [countless, List.filterMap_replicate]
    rfl
  have hlags : (windowLags 0 (List.replicate (maxSignedInt64 + 1) ⟨0, 0⟩)).length =
      maxSignedInt64 + 1 := by
    rw [windowLags, List.length_map, List.filter_replicate, if_pos (by decide),
      List.length_replicate]
  have htracks := tracks_after countless
  rw [hsamples] at htracks
  have hzero : ∀ n, ∀ latest ∈ (after (List.replicate n (.add 0 0))).latestSecond,
      latest = 0 := by
    intro n
    induction n with
    | zero => simp [after]
    | succ n ih =>
      intro latest hlatest
      rw [List.replicate_succ', after, List.foldl_append] at hlatest
      exact (latestSecond_add _ 0 0 latest hlatest).elim (ih latest) fun h => h
  rcases snapshot_cases htracks (Nat.zero_le _) with
    ⟨latest, hsome, hback, -⟩ | ⟨-, r', hr', hsome, hsnapshot⟩
  · rw [hzero _ latest hsome] at hback
    cases hback
  · have hd := hr'.collect hsome
    have hlong : maxSignedInt64 < (windowLags (0 / nsPerSecond)
        (List.replicate (maxSignedInt64 + 1) ⟨0, 0⟩)).length := by
      rw [Nat.zero_div, hlags]
      exact Nat.lt_succ_self _
    calc ((after countless).snapshotChecked 0).2 = ((after countless).snapshot 0).2 := rfl
      _ = (RollingHistogram.collect (0 / nsPerSecond) r'.slots).snapshot := by rw [hsnapshot]
      _ = _ := hd.snapshot_error hlong

end RollingHistogram

end CryptoCollector.Storage
